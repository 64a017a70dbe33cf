import EventFeed.Json.Scanner

/-!
# Reading JSON

A document is read in one pass, and a refused one names the first byte at which it cannot go on. Lists
and objects may nest 127 deep. An object whose first key is `embeddedKey` stands for the document that
the text under that key spells; it may hold nothing else.

`fuel` bounds the recursion and is computed from the document's length in `readDocument`, where it is
always enough.
-/

namespace EventFeed.Json

/-- The first key of an object that stands for the document in the text of its only member. -/
def embeddedKey : String := "$serde_json::private::RawValue"

def nestingLimit : Nat := 127

/-- The fault of a value of another type than expected, the value's first byte in front. A list or an
object is not read; any other value is. -/
def wrongTypeFault (fuel : Nat) (expected : String) : List UInt8 → Fault
  | [] => .ahead .expectedValue []
  | b :: rest =>
      let placed (got : Found) (rest : List UInt8) : Fault :=
        .here (.mismatch (.wrongType got expected)) rest
      if b = 0x6E then
        match readWord nullTail rest with
        | .error fault => fault
        | .ok rest => placed .null rest
      else if b = 0x74 then
        match readWord trueTail rest with
        | .error fault => fault
        | .ok rest => placed (.bool true) rest
      else if b = 0x66 then
        match readWord falseTail rest with
        | .error fault => fault
        | .ok rest => placed (.bool false) rest
      else if b = 0x2D then
        match readNumber true rest with
        | .error fault => fault
        | .ok (value, rest) => placed (.number value) rest
      else if isDigit b then
        match readNumber false (b :: rest) with
        | .error fault => fault
        | .ok (value, rest) => placed (.number value) rest
      else if b = 0x22 then
        match readString fuel rest with
        | .error fault => fault
        | .ok (value, rest) => placed (.string value) rest
      else if b = 0x5B then placed .list (b :: rest)
      else if b = 0x7B then placed .object (b :: rest)
      else .ahead .expectedValue (b :: rest)

def readText (fuel : Nat) (expected : String) (input : List UInt8) : Read String :=
  match skipBlanks input with
  | [] => .error (.ahead .endInValue [])
  | b :: rest =>
      if b = 0x22 then readString fuel rest
      else .error (wrongTypeFault fuel expected (b :: rest))

def readColon (input : List UInt8) : Except Fault (List UInt8) :=
  match skipBlanks input with
  | [] => .error (.ahead .endInObject [])
  | b :: rest => if b = 0x3A then .ok rest else .error (.ahead .expectedColon (b :: rest))

/-- Reads the brace that must follow the only member of an object. -/
def readLoneClose (input : List UInt8) : Except Fault (List UInt8) :=
  match skipBlanks input with
  | [] => .error (.ahead .endInObject [])
  | b :: rest =>
      if b = 0x7D then .ok rest
      else .error (.ahead (if b = 0x2C then .trailingComma else .trailingCharacters) (b :: rest))

/-- Whether only blanks are left; a fault at what else is. -/
def readEnd (input : List UInt8) : Except Fault Unit :=
  match skipBlanks input with
  | [] => .ok ()
  | b :: rest => .error (.ahead .trailingCharacters (b :: rest))

/-- The fault of a document inside a text: its position is the one inside that text. -/
def embeddedFault (fault : Fault) (document : List UInt8) : Fault :=
  ⟨fault.problem, .known (fault.position document)⟩

mutual

/-- Reads a value, `depth` levels of nesting still allowed. -/
def readValue : (fuel depth : Nat) → List UInt8 → Read Json
  | 0, _, input => .error (.here .endInValue input)
  | fuel + 1, depth, input =>
      match skipBlanks input with
      | [] => .error (.ahead .endInValue [])
      | b :: rest =>
          if b = 0x6E then (readWord nullTail rest).map (Json.null, ·)
          else if b = 0x74 then (readWord trueTail rest).map (Json.bool true, ·)
          else if b = 0x66 then (readWord falseTail rest).map (Json.bool false, ·)
          else if b = 0x2D then
            (readNumber true rest).map fun (value, rest) => (Json.number value, rest)
          else if isDigit b then
            (readNumber false (b :: rest)).map fun (value, rest) => (Json.number value, rest)
          else if b = 0x22 then
            (readString fuel rest).map fun (value, rest) => (Json.string value, rest)
          else if b = 0x5B then
            match depth with
            | 0 => .error (.ahead .nestingTooDeep (b :: rest))
            | depth + 1 => (readItems fuel depth rest).map fun (items, rest) => (Json.array items, rest)
          else if b = 0x7B then
            match depth with
            | 0 => .error (.ahead .nestingTooDeep (b :: rest))
            | depth + 1 => readObject fuel depth rest
          else .error (.ahead .expectedValue (b :: rest))

def readItems : (fuel depth : Nat) → List UInt8 → Read (List Json)
  | 0, _, input => .error (.here .endInList input)
  | fuel + 1, depth, input =>
      match skipBlanks input with
      | [] => .error (.ahead .endInList [])
      | b :: rest =>
          if b = 0x5D then .ok ([], rest)
          else
            match readValue fuel depth (b :: rest) with
            | .error fault => .error fault
            | .ok (item, rest) =>
                match readMoreItems fuel depth rest with
                | .error fault => .error fault
                | .ok (items, rest) => .ok (item :: items, rest)

def readMoreItems : (fuel depth : Nat) → List UInt8 → Read (List Json)
  | 0, _, input => .error (.here .endInList input)
  | fuel + 1, depth, input =>
      match skipBlanks input with
      | [] => .error (.ahead .endInList [])
      | b :: rest =>
          if b = 0x5D then .ok ([], rest)
          else if b = 0x2C then
            match skipBlanks rest with
            | [] => .error (.ahead .endInValue [])
            | c :: after =>
                if c = 0x5D then .error (.ahead .trailingComma (c :: after))
                else
                  match readValue fuel depth (c :: after) with
                  | .error fault => .error fault
                  | .ok (item, rest) =>
                      match readMoreItems fuel depth rest with
                      | .error fault => .error fault
                      | .ok (items, rest) => .ok (item :: items, rest)
          else .error (.ahead .expectedListEnd (b :: rest))

def readObject : (fuel depth : Nat) → List UInt8 → Read Json
  | 0, _, input => .error (.here .endInObject input)
  | fuel + 1, depth, input =>
      match skipBlanks input with
      | [] => .error (.ahead .endInObject [])
      | b :: rest =>
          if b = 0x7D then .ok (.object [], rest)
          else if b = 0x22 then
            match readString fuel rest with
            | .error fault => .error fault
            | .ok (key, rest) =>
                if key = embeddedKey then readEmbedded fuel rest
                else
                  match readMember fuel depth key rest with
                  | .error fault => .error fault
                  | .ok (members, rest) => .ok (.object members, rest)
          else .error (.ahead .keyNotString (b :: rest))

def readMember : (fuel depth : Nat) → String → List UInt8 → Read (List (String × Json))
  | 0, _, _, input => .error (.here .endInObject input)
  | fuel + 1, depth, key, input =>
      match readColon input with
      | .error fault => .error fault
      | .ok rest =>
          match readValue fuel depth rest with
          | .error fault => .error fault
          | .ok (value, rest) =>
              match readMoreMembers fuel depth rest with
              | .error fault => .error fault
              | .ok (members, rest) => .ok ((key, value) :: members, rest)

def readMoreMembers : (fuel depth : Nat) → List UInt8 → Read (List (String × Json))
  | 0, _, input => .error (.here .endInObject input)
  | fuel + 1, depth, input =>
      match skipBlanks input with
      | [] => .error (.ahead .endInObject [])
      | b :: rest =>
          if b = 0x7D then .ok ([], rest)
          else if b = 0x2C then
            match skipBlanks rest with
            | [] => .error (.ahead .endInValue [])
            | c :: after =>
                if c = 0x22 then
                  match readString fuel after with
                  | .error fault => .error fault
                  | .ok (key, rest) => readMember fuel depth key rest
                else if c = 0x7D then .error (.ahead .trailingComma (c :: after))
                else .error (.ahead .keyNotString (c :: after))
          else .error (.ahead .expectedObjectEnd (b :: rest))

/-- Reads the document that the text behind the embedding key spells, and the end of the object. -/
def readEmbedded : (fuel : Nat) → List UInt8 → Read Json
  | 0, input => .error (.here .endInObject input)
  | fuel + 1, input =>
      match readColon input with
      | .error fault => .error fault
      | .ok rest =>
          match readText fuel "raw value" rest with
          | .error fault => .error fault
          | .ok (text, rest) =>
              let document := Utf8.ofString text
              match readValue fuel nestingLimit document with
              | .error fault => .error (embeddedFault fault document)
              | .ok (value, after) =>
                  match readEnd after with
                  | .error fault => .error (embeddedFault fault document)
                  | .ok () => (readLoneClose rest).map (value, ·)

end

/-- Enough fuel for a document: a value and the list or object around it take two steps a byte. -/
def fuelFor (document : List UInt8) : Nat :=
  3 * document.length + 3

def readDocument (document : List UInt8) : Except Fault Json :=
  match readValue (fuelFor document) nestingLimit document with
  | .error fault => .error fault
  | .ok (value, rest) => (readEnd rest).map fun () => value

def parse (document : List UInt8) : Except Error Json :=
  match readDocument document with
  | .error fault => .error (fault.toError document)
  | .ok value => .ok value.sorted

def parseText (document : String) : Except Error Json :=
  parse (Utf8.ofString document)

/-- What is parsed is in key order. -/
theorem ordered_of_parse {document : List UInt8} {value : Json} (parsed : parse document = .ok value) :
    value.Ordered := by
  unfold parse at parsed
  split at parsed
  · cases parsed
  · cases parsed
    exact sorted_ordered _

end EventFeed.Json
