import EventFeed.Schema.FromJson
import EventFeed.Schema.FromText

/-!
# Types with a document form

A type whose values travel as JSON documents has a schema, the document of each value, and the value of
each datum that obeys the schema. Such a value is decoded from the bytes of a document or from the
document's JSON value.
-/

namespace EventFeed

/-- Values that travel as JSON documents. -/
class Document (α : Type) where
  /-- What a document has to hold. -/
  schema : Schema
  /-- The value of a datum that obeys the schema. -/
  ofDatum? : Datum → Option α
  /-- The document of a value. -/
  toJson : α → Json

namespace Document

variable {α : Type} [Document α]

/-- The value of a datum. One that was read against the schema always has a value. -/
def ofDatum (datum : Datum) : Except Json.Error α :=
  match ofDatum? datum with
  | some value => .ok value
  | none => .error ⟨.expectedValue, none⟩

def decode (document : List UInt8) : Except Json.Error α :=
  match Schema.decode (schema α) document with
  | .error error => .error error
  | .ok datum => ofDatum datum

def decodeJson (value : Json) : Except Json.Error α :=
  match Schema.decodeJson (schema α) value with
  | .error error => .error error
  | .ok datum => ofDatum datum

/-- The value of a document, from its bytes by way of its JSON value. -/
def decodeByValue (document : List UInt8) : Except Json.Error α :=
  match Json.parse document with
  | .error error => .error error
  | .ok value => decodeJson value

def encode (value : α) : String :=
  (toJson value).compact

end Document

end EventFeed
