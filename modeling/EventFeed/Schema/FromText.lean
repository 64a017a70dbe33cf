import EventFeed.Schema.Basic

/-!
# Reading text against a schema

The bytes of a document are read against a schema without building its value. Members that a record has
no field for are passed over; a field that comes twice is refused. A mismatch that is found only when
the end of a record is looked for has its position behind that end.
-/

namespace EventFeed.Schema

open Json (Read Fault skipBlanks readString readText readColon readWord wrongTypeFault)

/-- Reading one value, `depth` levels of nesting still allowed. -/
abbrev Reader : Type := (fuel depth : Nat) → List UInt8 → Read Datum

def readFlag (fuel : Nat) (input : List UInt8) : Read Datum :=
  match skipBlanks input with
  | [] => .error (.ahead .endInValue [])
  | b :: rest =>
      if b = 0x74 then (readWord Json.trueTail rest).map (Datum.flag true, ·)
      else if b = 0x66 then (readWord Json.falseTail rest).map (Datum.flag false, ·)
      else .error (wrongTypeFault fuel "a boolean" (b :: rest))

def chooseHere (names : List String) (name : String) (rest : List UInt8) : Read Datum :=
  match choose names name with
  | .error cause => .error (.here (.mismatch cause) rest)
  | .ok datum => .ok (datum, rest)

def readNull (fuel : Nat) (expected : String) (input : List UInt8) : Except Fault (List UInt8) :=
  match skipBlanks input with
  | [] => .error (.ahead .endInValue [])
  | b :: rest =>
      if b = 0x6E then readWord Json.nullTail rest
      else .error (wrongTypeFault fuel expected (b :: rest))

def readChoiceKey (fuel : Nat) (input : List UInt8) : Read String :=
  match skipBlanks input with
  | [] => .error (.ahead .endInObject [])
  | b :: rest =>
      if b = 0x22 then readString fuel rest
      else if b = 0x7D then .error (.ahead .expectedValue (b :: rest))
      else .error (.ahead .keyNotString (b :: rest))

def readChoiceEnd (datum : Datum) (input : List UInt8) : Read Datum :=
  match skipBlanks input with
  | [] => .error (.here .endInObject [])
  | b :: rest =>
      if b = 0x7D then .ok (datum, rest) else .error (.here .expectedValue (b :: rest))

/-- Reads a choice: its name, or an object with its name as the only key and nothing under it. -/
def readChoice (names : List String) : Reader := fun fuel depth input =>
  match skipBlanks input with
  | [] => .error (.ahead .endInValue [])
  | b :: rest =>
      if b = 0x22 then
        match readString fuel rest with
        | .error fault => .error fault
        | .ok (name, rest) => chooseHere names name rest
      else if b = 0x7B then
        if depth = 0 then .error (.ahead .nestingTooDeep (b :: rest))
        else
          match readChoiceKey fuel rest with
          | .error fault => .error fault
          | .ok (name, rest) =>
              match chooseHere names name rest with
              | .error fault => .error fault
              | .ok (datum, rest) =>
                  match readColon rest with
                  | .error fault => .error fault
                  | .ok rest =>
                      match readNull fuel "unit" rest with
                      | .error fault => .error fault
                      | .ok rest => readChoiceEnd datum rest
      else .error (.ahead .expectedValue (b :: rest))

/-- What stands behind an opening bracket or an item: another item in front, or the end of the list. -/
inductive Next where
  | item (input : List UInt8)
  | close (rest : List UInt8)

/-- Looks for the next item of a list; `first` when none was read yet. -/
def nextItem (first : Bool) (input : List UInt8) : Except Fault Next :=
  match skipBlanks input with
  | [] => .error (.ahead .endInList [])
  | b :: rest =>
      if b = 0x5D then .ok (.close rest)
      else if first then .ok (.item (b :: rest))
      else if b = 0x2C then
        match skipBlanks rest with
        | [] => .error (.ahead .endInValue [])
        | c :: after =>
            if c = 0x5D then .error (.ahead .trailingComma (c :: after))
            else .ok (.item (c :: after))
      else .error (.ahead .expectedListEnd (b :: rest))

def readItems (item : List UInt8 → Read Datum) : (fuel : Nat) → (first : Bool) → List UInt8 → Read (List Datum)
  | 0, _, input => .error (.here .endInList input)
  | fuel + 1, first, input =>
      match nextItem first input with
      | .error fault => .error fault
      | .ok (.close rest) => .ok ([], rest)
      | .ok (.item input) =>
          match item input with
          | .error fault => .error fault
          | .ok (datum, rest) =>
              (readItems item fuel false rest).map fun (data, rest) => (datum :: data, rest)

/-- Reads the end of a list whose items have all been read. -/
def readListEnd (input : List UInt8) : Except Fault (List UInt8) :=
  match skipBlanks input with
  | [] => .error (.ahead .endInList [])
  | b :: rest =>
      if b = 0x5D then .ok rest
      else if b = 0x2C then
        match skipBlanks rest with
        | [] => .error (.ahead .trailingCharacters [])
        | c :: after =>
            .error (.ahead (if c = 0x5D then .trailingComma else .trailingCharacters) (c :: after))
      else .error (.ahead .trailingCharacters (b :: rest))

/-- What stands behind an opening brace or a member: a key, read, or the end of the object. -/
inductive NextKey where
  | key (key : String) (rest : List UInt8)
  | close (rest : List UInt8)

def readKey (fuel : Nat) : List UInt8 → Except Fault NextKey
  | [] => .error (.ahead .endInValue [])
  | b :: rest =>
      if b = 0x22 then (readString fuel rest).map fun (key, rest) => .key key rest
      else .error (.ahead .keyNotString (b :: rest))

/-- Looks for the next member of an object; `first` when none was read yet. -/
def nextKey (fuel : Nat) (first : Bool) (input : List UInt8) : Except Fault NextKey :=
  match skipBlanks input with
  | [] => .error (.ahead .endInObject [])
  | b :: rest =>
      if b = 0x7D then .ok (.close rest)
      else if first then readKey fuel (b :: rest)
      else if b = 0x2C then
        match skipBlanks rest with
        | [] => .error (.ahead .endInValue [])
        | c :: after =>
            if c = 0x7D then .error (.ahead .trailingComma (c :: after))
            else readKey fuel (c :: after)
      else .error (.ahead .expectedObjectEnd (b :: rest))

/-- The fault of a key that came before: its place is behind the blanks, and behind the end of the
object where that follows. -/
def duplicateFault (key : String) (input : List UInt8) : Fault :=
  match skipBlanks input with
  | [] => .here (.mismatch (.duplicateField key)) []
  | b :: rest => .here (.mismatch (.duplicateField key)) (if b = 0x7D then rest else b :: rest)

/-- Reads the members of an object and its end. `field` is the reader of the field under a key, and
`collected` the fields read before. -/
def readMembers (field : String → Option (List UInt8 → Read Datum)) :
    (fuel : Nat) → (first : Bool) → List (String × Datum) → List UInt8 → Read (List (String × Datum))
  | 0, _, _, input => .error (.here .endInObject input)
  | fuel + 1, first, collected, input =>
      match nextKey fuel first input with
      | .error fault => .error fault
      | .ok (.close rest) => .ok (collected, rest)
      | .ok (.key key rest) =>
          match field key with
          | none =>
              match readColon rest with
              | .error fault => .error fault
              | .ok rest =>
                  match Json.skipValue fuel rest with
                  | .error fault => .error fault
                  | .ok rest => readMembers field fuel false collected rest
          | some read =>
              if (collected? key collected).isSome then .error (duplicateFault key rest)
              else
                match readColon rest with
                | .error fault => .error fault
                | .ok rest =>
                    match read rest with
                    | .error fault => .error fault
                    | .ok (datum, rest) =>
                        readMembers field fuel false ((key, datum) :: collected) rest

mutual

def read : Schema → Reader
  | .text => fun fuel _ input =>
      (readText fuel "a string" input).map fun (value, rest) => (.text value, rest)
  | .flag => fun fuel _ input => readFlag fuel input
  | .choice names => readChoice names
  | .optional inner => fun fuel depth input =>
      match skipBlanks input with
      | [] => read inner fuel depth []
      | b :: rest =>
          if b = 0x6E then (readWord Json.nullTail rest).map (Datum.nothing, ·)
          else read inner fuel depth (b :: rest)
  | .list item => fun fuel depth input =>
      match skipBlanks input with
      | [] => .error (.ahead .endInValue [])
      | b :: rest =>
          if b = 0x5B then
            if depth = 0 then .error (.ahead .nestingTooDeep (b :: rest))
            else
              (readItems (read item fuel (depth - 1)) fuel true rest).map fun (data, rest) =>
                (.list data, rest)
          else .error (wrongTypeFault fuel "a sequence" (b :: rest))
  | .record name fields => fun fuel depth input =>
      match skipBlanks input with
      | [] => .error (.ahead .endInValue [])
      | b :: rest =>
          if b = 0x5B then
            if depth = 0 then .error (.ahead .nestingTooDeep (b :: rest))
            else
              match readInOrder (recordLength name fields) 0 fields fuel (depth - 1) rest with
              | .error fault => .error fault
              | .ok (data, rest) => (readListEnd rest).map (.record data, ·)
          else if b = 0x7B then
            if depth = 0 then .error (.ahead .nestingTooDeep (b :: rest))
            else
              match readMembers (readField fields fuel (depth - 1)) fuel true [] rest with
              | .error fault => .error fault
              | .ok (collected, rest) =>
                  match assemble collected fields with
                  | .error cause => .error (.here (.mismatch cause) rest)
                  | .ok data => .ok (.record data, rest)
          else .error (wrongTypeFault fuel (recordName name) (b :: rest))

/-- The reader of the field under a key; none when the record has no such field. -/
def readField : Fields → (fuel depth : Nat) → String → Option (List UInt8 → Read Datum)
  | [], _, _, _ => none
  | (key, _, schema) :: rest, fuel, depth, wanted =>
      if key = wanted then some (read schema fuel depth) else readField rest fuel depth wanted

/-- Reads the fields of a record from the items of a list, `index` of them read before. The end of the
list is not read. -/
def readInOrder (expected : String) (index : Nat) :
    Fields → (fuel depth : Nat) → List UInt8 → Read (List Datum)
  | [], _, _, input => .ok ([], input)
  | (_, required, schema) :: rest, fuel, depth, input =>
      match nextItem (index = 0) input with
      | .error fault => .error fault
      | .ok (.close after) =>
          if required then .error (.here (.mismatch (.wrongLength index expected)) after)
          else
            (readInOrder expected (index + 1) rest fuel depth (0x5D :: after)).map
              fun (data, input) => (.nothing :: data, input)
      | .ok (.item input) =>
          match read schema fuel depth input with
          | .error fault => .error fault
          | .ok (datum, after) =>
              (readInOrder expected (index + 1) rest fuel depth after).map
                fun (data, input) => (datum :: data, input)

end

def decode (schema : Schema) (document : List UInt8) : Except Json.Error Datum :=
  match read schema (Json.fuelFor document) Json.nestingLimit document with
  | .error fault => .error (fault.toError document)
  | .ok (datum, rest) =>
      match Json.readEnd rest with
      | .error fault => .error (fault.toError document)
      | .ok () => .ok datum

end EventFeed.Schema
