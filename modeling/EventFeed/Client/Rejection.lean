import EventFeed.Schema.Document

/-!
# Rejections

How the cluster says that it did not do what was asked: a class, a message and two optional remarks, in
an envelope whose only field is the rejection.
-/

namespace EventFeed

/-- Why the cluster refused a request. -/
structure Rejection where
  /-- The part of the cluster that refused, such as `insert` or `query`. -/
  kind : String
  message : String
  detail : Option String
  additional : Option String
  deriving DecidableEq, Repr

namespace Rejection

def schema : Schema :=
  .record "RemoteError"
    [("class", true, .text), ("message", true, .text),
      ("detail", false, .optional .text), ("additional", false, .optional .text)]

def remarkOfDatum? : Datum → Option (Option String)
  | .text value => some (some value)
  | .nothing => some none
  | _ => none

def ofDatum? : Datum → Option Rejection
  | .record [.text kind, .text message, detail, additional] => do
      let detail ← remarkOfDatum? detail
      let additional ← remarkOfDatum? additional
      return ⟨kind, message, detail, additional⟩
  | _ => none

/-- A field that is left out when there is nothing in it. -/
def remarkField (key : String) : Option String → List (String × Json)
  | some value => [(key, .string value)]
  | none => []

def toJson (rejection : Rejection) : Json :=
  .object ([("class", .string rejection.kind), ("message", .string rejection.message)] ++
    remarkField "detail" rejection.detail ++ remarkField "additional" rejection.additional)

instance : Document Rejection where
  schema := schema
  ofDatum? := ofDatum?
  toJson := toJson

end Rejection

/-- The body of a response that carries a rejection. -/
structure Envelope where
  rejection : Rejection
  deriving DecidableEq, Repr

namespace Envelope

def schema : Schema :=
  .record "ErrorEnvelope" [("error", true, Rejection.schema)]

def ofDatum? : Datum → Option Envelope
  | .record [rejection] => (Rejection.ofDatum? rejection).map Envelope.mk
  | _ => none

def toJson (envelope : Envelope) : Json :=
  .object [("error", envelope.rejection.toJson)]

instance : Document Envelope where
  schema := schema
  ofDatum? := ofDatum?
  toJson := toJson

end Envelope

end EventFeed
