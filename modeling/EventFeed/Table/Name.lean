import EventFeed.Refusal

/-!
# Table names

A table name is a nonempty word of ASCII letters, digits and underscores. It stands in request paths as
it is.
-/

namespace EventFeed

def isNameChar (c : Char) : Bool :=
  c.isAlphanum || c = '_'

theorem ascii_of_isNameChar {c : Char} (word : isNameChar c = true) : c.toNat < 128 := by
  delta isNameChar Char.isAlphanum Char.isAlpha Char.isUpper Char.isLower Char.isDigit at word
  simp only [Bool.or_eq_true, Bool.and_eq_true, decide_eq_true_eq] at word
  rcases word with ((upper | lower) | digit) | rfl
  · exact Nat.lt_of_le_of_lt (UInt32.le_iff_toNat_le.1 upper.2) (by decide)
  · exact Nat.lt_of_le_of_lt (UInt32.le_iff_toNat_le.1 lower.2) (by decide)
  · exact Nat.lt_of_le_of_lt (UInt32.le_iff_toNat_le.1 digit.2) (by decide)
  · decide

structure TableName where
  text : String
  nonempty : text ≠ ""
  wordChars : ∀ c ∈ text.toList, isNameChar c = true

namespace TableName

instance : DecidableEq TableName := fun x y =>
  decidable_of_iff (x.text = y.text) ⟨fun same => by cases x; cases y; simp_all, fun same => by rw [same]⟩

def check (text : String) : Except Refusal TableName :=
  if nonempty : text = "" then .error (.invalidTableName text .empty)
  else if wordChars : text.toList.all isNameChar = true then
    .ok ⟨text, nonempty, fun c present => List.all_eq_true.1 wordChars c present⟩
  else .error (.invalidTableName text .badCharacter)

/-- A checked name has the text that was checked. -/
theorem text_of_check {text : String} {name : TableName} (checked : check text = .ok name) :
    name.text = text := by
  unfold check at checked
  split at checked
  · cases checked
  · split at checked
    · cases checked
      rfl
    · cases checked

end TableName

end EventFeed
