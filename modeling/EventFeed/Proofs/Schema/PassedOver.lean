import EventFeed.Proofs.Json.RoundTrip
import EventFeed.Proofs.Json.Skipping
import EventFeed.Proofs.Schema.Spelling

/-!
# What is passed over

The skipper builds no value and keeps no more than the brackets that are open. Where bytes spell a value, it
comes behind the same bytes as a reader of that value.
-/

namespace EventFeed.Schema

open Json (skipBlanks readString readColon isDigit Frame skipOpen skipBody skipMore)

variable {input tail rest : List UInt8} {value : Json} {fuel : Nat} {first : Bool}

/-! ## Keys, items and members -/

/-- A key and its colon that are passed over end where they would end if they were read. -/
theorem skipKey_of_readString {key : String} {after front other : List UInt8} {skipFuel : Nat}
    (blanks : skipBlanks input = 0x22 :: tail) (read : readString fuel tail = .ok (key, after))
    (colon : readColon after = .ok front) (skipped : Json.skipKey skipFuel input = .ok other) :
    other = front := by
  obtain ⟨bytes, scanned, _⟩ := Json.scanString_of_readString read
  rw [Json.skipKey, blanks] at skipped
  dsimp only at skipped
  rw [if_pos rfl] at skipped
  split at skipped
  · cases skipped
  rename_i behind passed
  rw [Json.skipString_of_scanString scanned passed, colon] at skipped
  exact (Except.ok.inj skipped).symm

theorem skipOpen_of_skipBlanks {other out : List UInt8} {frames : List Frame}
    (same : skipBlanks other = skipBlanks input) (skipped : skipOpen fuel frames input = .ok out) :
    skipOpen fuel frames other = .ok out := by
  cases fuel with
  | zero => rw [skipOpen] at skipped; cases skipped
  | succ fuel =>
      rw [skipOpen] at skipped ⊢
      rw [same]
      exact skipped

/-- The skipper behind the opening bracket of a frame, or behind a value in it. -/
def skipInside (fuel : Nat) (first : Bool) (frame : Frame) (frames : List Frame) (input : List UInt8) :
    Except Json.Fault (List UInt8) :=
  if first then skipBody fuel frame frames input else skipMore fuel (frame :: frames) input

section

variable {frames : List Frame} {front out : List UInt8}

theorem skipInside_zero {frame : Frame} : skipInside 0 first frame frames input ≠ .ok out := by
  intro skipped
  cases first with
  | true => rw [skipInside, if_pos rfl, skipBody] at skipped; cases skipped
  | false => rw [skipInside, if_neg Bool.false_ne_true, skipMore] at skipped; cases skipped

theorem exists_skipMore_of_closing (frame : Frame) (blanks : skipBlanks input = frame.closing :: rest)
    (skipped : skipInside fuel first frame frames input = .ok out) :
    ∃ fuel, skipMore fuel frames rest = .ok out := by
  cases fuel with
  | zero => exact absurd skipped skipInside_zero
  | succ fuel =>
      refine ⟨fuel, ?_⟩
      cases first with
      | true =>
          rw [skipInside, if_pos rfl, skipBody, blanks] at skipped
          dsimp only at skipped
          rw [if_pos rfl] at skipped
          exact skipped
      | false =>
          rw [skipInside, if_neg Bool.false_ne_true] at skipped
          unfold skipMore at skipped
          rw [blanks] at skipped
          dsimp only at skipped
          rw [if_neg (by cases frame <;> decide), if_pos rfl] at skipped
          exact skipped

/-- What the skipper does where an item or a member begins. -/
theorem exists_skipLabel {frame : Frame} {b : UInt8} (notClosing : b ≠ frame.closing)
    (begins : if first then skipBlanks input = b :: tail
      else ∃ behind, skipBlanks input = 0x2C :: behind ∧ skipBlanks behind = b :: tail)
    (skipped : skipInside fuel first frame frames input = .ok out) :
    ∃ fuel before label, skipBlanks before = b :: tail ∧ frame.skipLabel fuel before = .ok label ∧
      skipOpen fuel (frame :: frames) label = .ok out := by
  cases fuel with
  | zero => exact absurd skipped skipInside_zero
  | succ fuel =>
      cases first with
      | true =>
          rw [if_pos rfl] at begins
          rw [skipInside, if_pos rfl, skipBody, begins] at skipped
          dsimp only at skipped
          rw [if_neg notClosing] at skipped
          split at skipped
          · cases skipped
          rename_i label labelled
          exact ⟨fuel, b :: tail, label, skipBlanks_of_front begins, labelled, skipped⟩
      | false =>
          rw [if_neg Bool.false_ne_true] at begins
          obtain ⟨behind, comma, begins⟩ := begins
          rw [skipInside, if_neg Bool.false_ne_true] at skipped
          unfold skipMore at skipped
          rw [comma] at skipped
          dsimp only at skipped
          rw [if_pos rfl] at skipped
          split at skipped
          · cases skipped
          rename_i label labelled
          exact ⟨fuel, behind, label, begins, labelled, skipped⟩

theorem exists_skipOpen_of_nextItem (next : nextItem first input = .ok (.item front))
    (skipped : skipInside fuel first .list frames input = .ok out) :
    ∃ fuel, skipOpen fuel (.list :: frames) front = .ok out := by
  obtain ⟨b, tail, notClosing, rfl, begins⟩ := skipBlanks_of_item next
  obtain ⟨fuel, before, label, blanks, labelled, opened⟩ := exists_skipLabel notClosing begins skipped
  cases labelled
  refine ⟨fuel, skipOpen_of_skipBlanks ?_ opened⟩
  rw [skipBlanks_of_front blanks, blanks]

theorem exists_skipOpen_of_nextKey {keyFuel : Nat} {key : String} {after : List UInt8}
    (next : nextKey keyFuel first input = .ok (.key key after)) (colon : readColon after = .ok front)
    (skipped : skipInside fuel first .object frames input = .ok out) :
    ∃ fuel, skipOpen fuel (.object :: frames) front = .ok out := by
  obtain ⟨tail, read, begins⟩ := skipBlanks_of_key next
  obtain ⟨fuel, before, label, blanks, labelled, opened⟩ := exists_skipLabel (by decide) begins skipped
  obtain rfl := skipKey_of_readString blanks read colon labelled
  exact ⟨fuel, opened⟩

theorem exists_skipMore_of_scalar {b : UInt8} (blanks : skipBlanks input = b :: tail) (noBracket : b ≠ 0x5B)
    (noBrace : b ≠ 0x7B)
    (same : ∀ {fuel other}, Json.skipScalar fuel (b :: tail) = .ok other → other = rest)
    (skipped : skipOpen fuel frames input = .ok out) : ∃ fuel, skipMore fuel frames rest = .ok out := by
  cases fuel with
  | zero => rw [skipOpen] at skipped; cases skipped
  | succ fuel =>
      rw [skipOpen, blanks] at skipped
      dsimp only at skipped
      rw [if_neg noBracket, if_neg noBrace] at skipped
      split at skipped
      · cases skipped
      rename_i other scalar
      rw [same scalar] at skipped
      exact ⟨fuel, skipped⟩

def opening : Frame → UInt8
  | .list => 0x5B
  | .object => 0x7B

theorem exists_skipInside_of_opening (frame : Frame) (blanks : skipBlanks input = opening frame :: tail)
    (skipped : skipOpen fuel frames input = .ok out) :
    ∃ fuel, skipInside fuel true frame frames tail = .ok out := by
  cases fuel with
  | zero => rw [skipOpen] at skipped; cases skipped
  | succ fuel =>
      rw [skipOpen, blanks] at skipped
      refine ⟨fuel, ?_⟩
      cases frame with
      | list => exact skipped
      | object => exact skipped

end

/-! ## Values -/

mutual

/-- The skipper comes behind the value that is spelled, and goes on with what is open around it. -/
theorem Spells.skipMore {input rest : List UInt8} {value : Json} :
    Spells input value rest → ∀ {fuel frames out}, skipOpen fuel frames input = .ok out →
      ∃ fuel, skipMore fuel frames rest = .ok out
  | .null front word, _, _, _, skipped => by
      refine exists_skipMore_of_scalar front (by decide) (by decide) ?_ skipped
      intro fuel other scalar
      exact Except.ok.inj (scalar.symm.trans word)
  | .isTrue front word, _, _, _, skipped => by
      refine exists_skipMore_of_scalar front (by decide) (by decide) ?_ skipped
      intro fuel other scalar
      exact Except.ok.inj (scalar.symm.trans word)
  | .isFalse front word, _, _, _, skipped => by
      refine exists_skipMore_of_scalar front (by decide) (by decide) ?_ skipped
      intro fuel other scalar
      exact Except.ok.inj (scalar.symm.trans word)
  | .negative front read, _, _, _, skipped => by
      refine exists_skipMore_of_scalar front (by decide) (by decide) ?_ skipped
      intro fuel other scalar
      exact Except.ok.inj (scalar.symm.trans (Json.skipNumber_of_readNumber read))
  | .number front digit read, _, _, _, skipped => by
      have other {c : UInt8} (noDigit : isDigit c = false) := Json.ne_of_isDigit digit noDigit
      refine exists_skipMore_of_scalar front (other rfl) (other rfl) ?_ skipped
      intro fuel left scalar
      rw [Json.skipScalar, if_neg (other rfl), if_neg (other rfl), if_neg (other rfl), if_neg (other rfl),
        if_pos digit] at scalar
      exact Except.ok.inj (scalar.symm.trans (Json.skipNumber_of_readNumber read))
  | .string front read, _, _, _, skipped => by
      refine exists_skipMore_of_scalar front (by decide) (by decide) ?_ skipped
      intro fuel other scalar
      obtain ⟨bytes, scanned, _⟩ := Json.scanString_of_readString read
      exact Json.skipString_of_scanString scanned scalar
  | .array front inside, _, _, _, skipped => by
      obtain ⟨fuel, within⟩ := exists_skipInside_of_opening .list front skipped
      exact inside.skipMore within
  | .object front inside, _, _, _, skipped => by
      obtain ⟨fuel, within⟩ := exists_skipInside_of_opening .object front skipped
      exact inside.skipMore within
  | .embedded front inside, _, _, _, skipped => by
      obtain ⟨fuel, within⟩ := exists_skipInside_of_opening .object front skipped
      exact inside.skipMore within

theorem SpellsItems.skipMore {first : Bool} {input rest : List UInt8} {items : List Json} :
    SpellsItems first input items rest →
      ∀ {fuel frames out}, skipInside fuel first .list frames input = .ok out →
        ∃ fuel, skipMore fuel frames rest = .ok out
  | .close next, _, _, _, skipped =>
      exists_skipMore_of_closing .list (skipBlanks_of_close next) skipped
  | .item next here more, _, _, _, skipped => by
      obtain ⟨_, before⟩ := exists_skipOpen_of_nextItem next skipped
      obtain ⟨fuel, behind⟩ := here.skipMore before
      have within : skipInside fuel false .list _ _ = .ok _ := behind
      exact more.skipMore within

theorem SpellsMembers.skipMore {first : Bool} {input rest : List UInt8} {members : List (String × Json)} :
    SpellsMembers first input members rest →
      ∀ {fuel frames out}, skipInside fuel first .object frames input = .ok out →
        ∃ fuel, skipMore fuel frames rest = .ok out
  | .close next, _, _, _, skipped =>
      exists_skipMore_of_closing .object (skipBlanks_of_closeKey next) skipped
  | .member next colon here more, _, _, _, skipped => by
      obtain ⟨_, before⟩ := exists_skipOpen_of_nextKey next colon skipped
      obtain ⟨fuel, behind⟩ := here.skipMore before
      have within : skipInside fuel false .object _ _ = .ok _ := behind
      exact more.skipMore within

end

/-- A value that is passed over ends where the value ends that is spelled there. -/
theorem Spells.skipValue {out : List UInt8} (spelled : Spells input value rest)
    (skipped : Json.skipValue fuel input = .ok out) : out = rest := by
  obtain ⟨left, behind⟩ := spelled.skipMore skipped
  cases left with
  | zero => rw [Json.skipMore] at behind; cases behind
  | succ left =>
      rw [Json.skipMore] at behind
      exact (Except.ok.inj behind).symm

end EventFeed.Schema
