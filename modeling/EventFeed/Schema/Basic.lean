import EventFeed.Json.Skipper

/-!
# Schemas of documents

A `Schema` says what a document has to hold, and a `Datum` is what a document that obeys it held. There
are two readings of a document against a schema: straight from its bytes, and from its JSON value. They
refuse different documents, but where both accept they agree.
-/

namespace EventFeed

/-- What a document has to hold. The fields of a record have a key each, and say whether it may be
missing. -/
inductive Schema where
  | text
  | flag
  /-- One of some names. -/
  | choice (names : List String)
  /-- `null` for nothing. -/
  | optional (inner : Schema)
  | list (item : Schema)
  | record (name : String) (fields : List (String × Bool × Schema))

inductive Datum where
  | text (value : String)
  | flag (value : Bool)
  | choice (name : String)
  /-- Nothing where something is optional, and a field that is missing. -/
  | nothing
  | list (items : List Datum)
  /-- The fields in the order of the schema. -/
  | record (fields : List Datum)

namespace Schema

/-- Fields of a record: key, whether it has to be there, and what it holds. -/
abbrev Fields : Type := List (String × Bool × Schema)

/-- How a record is named where something else stands. -/
def recordName (name : String) : String :=
  "struct " ++ name

/-- How a record is named where a list is too short for it. -/
def recordLength (name : String) (fields : Fields) : String :=
  "struct " ++ name ++ " with " ++ toString fields.length ++
    if fields.length = 1 then " element" else " elements"

/-- The datum collected under a key, the first of several. -/
def collected? (key : String) : List (String × Datum) → Option Datum
  | [] => none
  | (other, datum) :: rest => if other = key then some datum else collected? key rest

/-- The fields of a record in order, from what was collected under keys. A missing field that has to be
there is a mismatch. -/
def assemble (collected : List (String × Datum)) : Fields → Except Json.Mismatch (List Datum)
  | [] => .ok []
  | (key, required, _) :: rest =>
      match collected? key collected with
      | some datum => (assemble collected rest).map (datum :: ·)
      | none =>
          if required then .error (.missingField key)
          else (assemble collected rest).map (Datum.nothing :: ·)

def choose (names : List String) (name : String) : Except Json.Mismatch Datum :=
  if names.contains name then .ok (.choice name) else .error (.unknownVariant name names)

end Schema

end EventFeed
