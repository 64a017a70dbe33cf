/-!
# Tables of characters

A table is written as text: code points in base sixteen with blanks between them, entries with commas. In a
table of ranges an entry is the first and the last code point, or one code point alone.
-/

namespace EventFeed.Unicode

def digitValue? (c : Char) : Option Nat :=
  if '0' ≤ c ∧ c ≤ '9' then some (c.toNat - 0x30)
  else if 'A' ≤ c ∧ c ≤ 'F' then some (c.toNat - 0x37)
  else none

/-- How much of a table has been read. Entries and the numbers of the last entry are there last one first. -/
structure Reading where
  entries : List (List Nat)
  numbers : List Nat
  number : Option Nat

namespace Reading

def endNumber (reading : Reading) : Reading :=
  match reading.number with
  | none => reading
  | some number => { reading with numbers := number :: reading.numbers, number := none }

def endEntry (reading : Reading) : Reading :=
  { entries := reading.endNumber.numbers.reverse :: reading.entries, numbers := [], number := none }

def pass (reading : Reading) (c : Char) : Reading :=
  match digitValue? c with
  | some digit => { reading with number := some (reading.number.getD 0 * 16 + digit) }
  | none => if c = ',' then reading.endEntry else reading.endNumber

end Reading

def entries (text : String) : List (List Nat) :=
  (text.toList.foldl Reading.pass ⟨[], [], none⟩).endEntry.entries.reverse

/-- First and last code points of ranges. -/
abbrev Ranges : Type := List (Nat × Nat)

namespace Ranges

def ofEntry? : List Nat → Option (Nat × Nat)
  | [point] => some (point, point)
  | [first, last] => some (first, last)
  | _ => none

def ofText (text : String) : Ranges :=
  (entries text).filterMap ofEntry?

def holds (ranges : Ranges) (v : Nat) : Bool :=
  ranges.any fun (first, last) => first ≤ v && v ≤ last

end Ranges

end EventFeed.Unicode
