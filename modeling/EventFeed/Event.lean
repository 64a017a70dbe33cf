import EventFeed.Refusal

/-!
# Events

An event is a JSON object, its members in key order at every depth. Nothing else is asked of it: the
cluster knows the columns.
-/

namespace EventFeed

structure Event where
  members : List (String × Json)
  ordered : Json.OrderedMembers members

namespace Event

def toJson (event : Event) : Json :=
  .object event.members

def compact (event : Event) : String :=
  event.toJson.compact

def field? (event : Event) (key : String) : Option Json :=
  Json.member? key event.members

def ofJson : (value : Json) → value.Ordered → Except Refusal Event
  | .object members, ordered => .ok ⟨members, ordered⟩
  | .array _, _ => .error (.notAnObject "array")
  | .string _, _ => .error (.notAnObject "string")
  | .number _, _ => .error (.notAnObject "number")
  | .bool _, _ => .error (.notAnObject "bool")
  | .null, _ => .error (.notAnObject "null")

/-- The event that a line without its terminator spells. -/
def parse (line : List UInt8) : Except Refusal Event :=
  match parsed : Json.parse line with
  | .error error => .error (.json error)
  | .ok value => ofJson value (Json.ordered_of_parse parsed)

/-- A value made of an event is that event again. -/
theorem ofJson_toJson (event : Event) : ofJson event.toJson event.ordered = .ok event := rfl

end Event

end EventFeed
