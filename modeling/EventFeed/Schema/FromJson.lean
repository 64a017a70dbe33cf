import EventFeed.Schema.Basic

/-!
# Reading a value against a schema

The members of an object are looked at in the order in which the value holds them. A record may also be
given as a list of its fields in order, those at the end left out if they may be missing.
-/

namespace EventFeed.Schema

def eachItem (read : Json → Except Json.Mismatch Datum) : List Json → Except Json.Mismatch (List Datum)
  | [] => .ok []
  | item :: rest =>
      match read item with
      | .error cause => .error cause
      | .ok datum => (eachItem read rest).map (datum :: ·)

/-- Reads the members that a record has a field for, and passes over the others. -/
def eachMember (read : String → Json → Option (Except Json.Mismatch Datum)) :
    List (String × Json) → Except Json.Mismatch (List (String × Datum))
  | [] => .ok []
  | (key, value) :: rest =>
      match read key value with
      | none => eachMember read rest
      | some (.error cause) => .error cause
      | some (.ok datum) => (eachMember read rest).map ((key, datum) :: ·)

mutual

def ofJson : Schema → Json → Except Json.Mismatch Datum
  | .text, .string value => .ok (.text value)
  | .text, value => .error (.wrongType (Json.found value) "a string")
  | .flag, .bool value => .ok (.flag value)
  | .flag, value => .error (.wrongType (Json.found value) "a boolean")
  | .choice names, .string name => choose names name
  | .choice names, .object [(name, held)] =>
      match choose names name, held with
      | .error cause, _ => .error cause
      | .ok datum, .null => .ok datum
      | .ok _, held => .error (.wrongType (Json.found held) "unit")
  | .choice _, .object _ => .error (.wrongValue .object "map with a single key")
  | .choice _, value => .error (.wrongType (Json.found value) "string or map")
  | .optional _, .null => .ok .nothing
  | .optional inner, value => ofJson inner value
  | .list item, .array items => (eachItem (ofJson item) items).map .list
  | .list _, value => .error (.wrongType (Json.found value) "a sequence")
  | .record name fields, .array items =>
      match fieldsInOrder (recordLength name fields) 0 fields items with
      | .error cause => .error cause
      | .ok (values, []) => .ok (.record values)
      | .ok (_, _ :: _) => .error (.wrongLength items.length "fewer elements in array")
  | .record _ fields, .object members =>
      match eachMember (fieldOfJson fields) members with
      | .error cause => .error cause
      | .ok collected => (assemble collected fields).map .record
  | .record name _, value => .error (.wrongType (Json.found value) (recordName name))

/-- The field under a key, read from its value; none when the record has no such field. -/
def fieldOfJson : Fields → String → Json → Option (Except Json.Mismatch Datum)
  | [], _, _ => none
  | (key, _, schema) :: rest, wanted, value =>
      if key = wanted then some (ofJson schema value) else fieldOfJson rest wanted value

/-- The fields of a record from the items of a list, `index` of them read before, and the items that are
left. -/
def fieldsInOrder (expected : String) (index : Nat) :
    Fields → List Json → Except Json.Mismatch (List Datum × List Json)
  | [], items => .ok ([], items)
  | (_, required, _) :: rest, [] =>
      if required then .error (.wrongLength index expected)
      else
        match fieldsInOrder expected (index + 1) rest [] with
        | .error cause => .error cause
        | .ok (data, items) => .ok (.nothing :: data, items)
  | (_, _, schema) :: rest, item :: items =>
      match ofJson schema item with
      | .error cause => .error cause
      | .ok datum =>
          match fieldsInOrder expected (index + 1) rest items with
          | .error cause => .error cause
          | .ok (data, items) => .ok (datum :: data, items)

end

/-- What a value holds; the error of one that does not obey the schema has no position. -/
def decodeJson (schema : Schema) (value : Json) : Except Json.Error Datum :=
  match ofJson schema value with
  | .error cause => .error ⟨.mismatch cause, none⟩
  | .ok datum => .ok datum

end EventFeed.Schema
