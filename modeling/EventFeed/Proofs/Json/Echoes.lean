import EventFeed.Json.Reader
import EventFeed.Proofs.Json.Skipping
import EventFeed.Proofs.Text.Utf8

/-!
# Pieces with blanks behind

A word, a number or a string is read in front of blanks as it is read at the end of a document: it is refused there
if it is refused here, and what is left is longer by the blanks. The fault may be another one, since a piece that is
cut off at the end of the document is broken by the blank that stands there.
-/

namespace EventFeed.Json

variable {blanks input : List UInt8} {fuel fuel' depth length : Nat}

/-! ## Readings that come to the same -/

/-- Two readings are both refused, or both give something, and that agrees. -/
inductive Alike {α : Type} (agree : α → α → Prop) : Except Fault α → Except Fault α → Prop where
  | refused (fault fault' : Fault) : Alike agree (.error fault) (.error fault')
  | read {found found' : α} (agrees : agree found found') : Alike agree (.ok found) (.ok found')

/-- One reading leaves less than so many bytes, and the other one leaves the blanks behind them as well. -/
abbrev EchoesRest (blanks : List UInt8) (length : Nat) :
    Except Fault (List UInt8) → Except Fault (List UInt8) → Prop :=
  Alike fun rest rest' => rest' = rest ++ blanks ∧ rest.length < length

/-- The same for readings that find something in front of what they leave. -/
abbrev Echoes (blanks : List UInt8) (length : Nat) {α : Type} : Read α → Read α → Prop :=
  Alike fun found found' => found' = (found.1, found.2 ++ blanks) ∧ found.2.length < length

namespace Alike

variable {α β : Type} {agree : α → α → Prop} {agree' : β → β → Prop} {read read' : Except Fault α}

theorem imp {weaker : α → α → Prop} (alike : Alike agree read read')
    (implies : ∀ found found', agree found found' → weaker found found') : Alike weaker read read' := by
  cases alike with
  | refused fault fault' => exact .refused fault fault'
  | read agrees => exact .read (implies _ _ agrees)

theorem map {f f' : α → β} (alike : Alike agree read read')
    (keeps : ∀ found found', agree found found' → agree' (f found) (f' found')) :
    Alike agree' (read.map f) (read'.map f') := by
  cases alike with
  | refused fault fault' => exact .refused fault fault'
  | read agrees => exact .read (keeps _ _ agrees)

theorem ite {c : Prop} [Decidable c] {other other' : Except Fault α} (yes : c → Alike agree read read')
    (no : ¬c → Alike agree other other') :
    Alike agree (if c then read else other) (if c then read' else other') := by
  by_cases holds : c
  · rw [if_pos holds, if_pos holds]
    exact yes holds
  · rw [if_neg holds, if_neg holds]
    exact no holds

end Alike

namespace Echoes

variable {α β : Type} {read read' : Read α}

theorem found (value : α) {rest : List UInt8} (shorter : rest.length < length) :
    Echoes blanks length (.ok (value, rest)) (.ok (value, rest ++ blanks)) :=
  Alike.read ⟨rfl, shorter⟩

theorem mono {more : Nat} (echoes : Echoes blanks length read read') (less : length ≤ more) :
    Echoes blanks more read read' :=
  Alike.imp echoes fun _ _ ⟨same, shorter⟩ => ⟨same, Nat.lt_of_lt_of_le shorter less⟩

/-- What is made of what was found makes no difference. -/
theorem map (echoes : Echoes blanks length read read') (f : α → β) :
    Echoes blanks length (read.map fun (value, rest) => (f value, rest))
      (read'.map fun (value, rest) => (f value, rest)) :=
  Alike.map echoes fun _ _ ⟨same, shorter⟩ => by
    subst same
    exact ⟨rfl, shorter⟩

/-- To go on from two readings that come to the same, it is enough to go on from a refusal and from what was found,
with the blanks behind it and without them. -/
@[elab_as_elim]
theorem elim {motive : Read α → Read α → Prop} (echoes : Echoes blanks length read read')
    (refused : ∀ fault fault', motive (.error fault) (.error fault'))
    (found : ∀ value rest, read = .ok (value, rest) → rest.length < length →
      motive (.ok (value, rest)) (.ok (value, rest ++ blanks))) : motive read read' := by
  cases echoes with
  | refused fault fault' => exact refused fault fault'
  | read agrees =>
      obtain ⟨rfl, shorter⟩ := agrees
      exact found _ _ rfl shorter

end Echoes

@[elab_as_elim]
theorem EchoesRest.elim {read read' : Except Fault (List UInt8)}
    {motive : Except Fault (List UInt8) → Except Fault (List UInt8) → Prop}
    (echoes : EchoesRest blanks length read read')
    (refused : ∀ fault fault', motive (.error fault) (.error fault'))
    (found : ∀ rest, rest.length < length → motive (.ok rest) (.ok (rest ++ blanks))) : motive read read' := by
  cases echoes with
  | refused fault fault' => exact refused fault fault'
  | read agrees =>
      obtain ⟨rfl, shorter⟩ := agrees
      exact found _ shorter

/-! ## Blanks -/

theorem length_skipBlanks_le (input : List UInt8) : (skipBlanks input).length ≤ input.length := by
  induction input with
  | nil => exact Nat.le_refl 0
  | cons b rest ih =>
      rw [skipBlanks]
      split
      · exact Nat.le_succ_of_le ih
      · exact Nat.le_refl _

theorem length_of_front {b : UInt8} {rest : List UInt8} (front : skipBlanks input = b :: rest) :
    rest.length < input.length := by
  have shorter := length_skipBlanks_le input
  rw [front, List.length_cons] at shorter
  exact shorter

theorem cases_of_isBlank {b : UInt8} (blank : isBlank b = true) : b = 0x20 ∨ b = 0x09 ∨ b = 0x0A ∨ b = 0x0D := by
  simpa only [isBlank, Bool.or_eq_true, decide_eq_true_eq, or_assoc] using blank

section

variable (blank : ∀ b ∈ blanks, isBlank b = true)
include blank

theorem skipBlanks_of_blanks : skipBlanks blanks = [] := by
  induction blanks with
  | nil => rfl
  | cons b rest ih =>
      rw [skipBlanks, if_pos (blank b List.mem_cons_self)]
      exact ih fun c inside => blank c (List.mem_cons_of_mem b inside)

theorem skipBlanks_append (input : List UInt8) :
    skipBlanks (input ++ blanks) = if skipBlanks input = [] then [] else skipBlanks input ++ blanks := by
  induction input with
  | nil => exact skipBlanks_of_blanks blank
  | cons b rest ih =>
      rw [List.cons_append, skipBlanks, skipBlanks]
      split
      · exact ih
      · rw [if_neg (List.cons_ne_nil _ _), List.cons_append]

/-- To go on behind the blanks, it is enough to go on from the end and from the first byte that is no blank. -/
@[elab_as_elim]
theorem skipBlanks_elim {motive : List UInt8 → List UInt8 → Prop} (input : List UInt8) (none : motive [] [])
    (front : ∀ b rest, rest.length < input.length → motive (b :: rest) (b :: (rest ++ blanks))) :
    motive (skipBlanks input) (skipBlanks (input ++ blanks)) := by
  rw [skipBlanks_append blank]
  cases found : skipBlanks input with
  | nil => exact none
  | cons b rest => exact front b rest (length_of_front found)

/-- Blanks are no digits, and no other part of a number. -/
theorem blanks_cases : blanks = [] ∨ ∃ b rest, blanks = b :: rest ∧ isDigit b = false ∧ b ≠ 0x2E ∧ b ≠ 0x65 ∧
    b ≠ 0x45 ∧ b ≠ 0x2B ∧ b ≠ 0x2D := by
  cases blanks with
  | nil => exact .inl rfl
  | cons b rest =>
      refine .inr ⟨b, rest, rfl, ?_⟩
      rcases cases_of_isBlank (blank b List.mem_cons_self) with rfl | rfl | rfl | rfl <;> decide

/-! ## Words -/

theorem echoes_readWord {word : List UInt8} (visible : word.all (!isBlank ·) = true) (input : List UInt8) :
    EchoesRest blanks (input.length + 1) (readWord word input) (readWord word (input ++ blanks)) := by
  induction word generalizing input with
  | nil => exact .read ⟨rfl, Nat.lt_succ_self _⟩
  | cons w word ih =>
      obtain ⟨first, others⟩ := Bool.and_eq_true_iff.1 (List.all_cons.symm.trans visible)
      cases input with
      | nil =>
          cases blanks with
          | nil => exact .refused _ _
          | cons b behind =>
              have other : b ≠ w := by
                rintro rfl
                rw [blank b List.mem_cons_self] at first
                cases first
              rw [List.nil_append, readWord, readWord, if_neg other]
              exact .refused _ _
      | cons b rest =>
          rw [List.cons_append, readWord, readWord]
          refine .ite (fun _ => ?_) fun _ => .refused _ _
          exact (ih others rest).imp fun _ _ ⟨same, shorter⟩ => ⟨same, Nat.lt_succ_of_lt shorter⟩

/-! ## Numbers -/

theorem readDigits_append_blanks (digits : Significand) (input : List UInt8) :
    readDigits digits (input ++ blanks) = ((readDigits digits input).1, (readDigits digits input).2 ++ blanks) := by
  induction input generalizing digits with
  | nil =>
      rcases blanks_cases blank with rfl | ⟨b, rest, rfl, noDigit, _⟩
      · rfl
      · rw [List.nil_append, readDigits, readDigits, noDigit]
        rfl
  | cons b rest ih =>
      rw [List.cons_append, readDigits, readDigits]
      split
      · exact ih _
      · rfl

omit blank in
theorem length_readDigits_le (digits : Significand) (input : List UInt8) :
    (readDigits digits input).2.length ≤ input.length := by
  induction input generalizing digits with
  | nil => exact Nat.le_refl 0
  | cons b rest ih =>
      rw [readDigits]
      split
      · exact Nat.le_succ_of_le (ih _)
      · exact Nat.le_refl _

theorem echoes_readPower (refuse : Bool) (value : Nat) (input : List UInt8) :
    Echoes blanks (input.length + 1) (readPower refuse value input)
      (readPower refuse value (input ++ blanks)) := by
  induction input generalizing value with
  | nil =>
      rcases blanks_cases blank with rfl | ⟨b, rest, rfl, noDigit, _⟩
      · exact Echoes.found _ (Nat.lt_succ_self _)
      · rw [List.nil_append, readPower, readPower, noDigit]
        exact Echoes.found _ (Nat.lt_succ_self _)
  | cons b rest ih =>
      rw [List.cons_append, readPower, readPower]
      refine .ite (fun _ => ?_) fun _ => Echoes.found _ (Nat.lt_succ_self _)
      refine .ite (fun _ => (ih _).mono (Nat.le_succ _)) fun _ => ?_
      exact .ite (fun _ => .refused _ _) fun _ => (ih _).mono (Nat.le_succ _)

omit blank in
theorem echoes_doubleOf (negative : Bool) (digits : Nat) (exponent : Int) {rest : List UInt8}
    (shorter : rest.length < length) :
    Echoes blanks length (doubleOf negative digits exponent rest)
      (doubleOf negative digits exponent (rest ++ blanks)) := by
  unfold doubleOf
  cases Binary64.ofDecimal negative digits exponent with
  | none => exact .refused _ _
  | some value => exact Echoes.found _ shorter

omit blank in
theorem echoes_integerNumber (negative : Bool) (value dropped : Nat) {rest : List UInt8}
    (shorter : rest.length < length) :
    Echoes blanks length (integerNumber negative value dropped rest)
      (integerNumber negative value dropped (rest ++ blanks)) := by
  unfold integerNumber
  refine .ite (fun _ => ?_) fun _ => ?_
  · by_cases small : dropped = 0 ∧ 0 < value ∧ value ≤ 9223372036854775808
    · rw [dif_pos small, dif_pos small]
      exact Echoes.found _ shorter
    · rw [dif_neg small, dif_neg small]
      exact echoes_doubleOf _ _ _ shorter
  · by_cases small : dropped = 0 ∧ value < 18446744073709551616
    · rw [dif_pos small, dif_pos small]
      exact Echoes.found _ shorter
    · rw [dif_neg small, dif_neg small]
      exact echoes_doubleOf _ _ _ shorter

theorem readSign_append_blanks (input : List UInt8) :
    readSign (input ++ blanks) = ((readSign input).1, (readSign input).2 ++ blanks) := by
  cases input with
  | nil =>
      rcases blanks_cases blank with rfl | ⟨b, rest, rfl, _, _, _, _, noPlus, noMinus⟩
      · rfl
      · rw [List.nil_append, readSign, if_neg noPlus, if_neg noMinus]
        rfl
  | cons b rest =>
      rw [List.cons_append, readSign, readSign]
      split
      · rfl
      split <;> rfl

omit blank in
theorem length_readSign_le (input : List UInt8) : (readSign input).2.length ≤ input.length := by
  cases input with
  | nil => exact Nat.le_refl 0
  | cons b rest =>
      rw [readSign]
      split
      · exact Nat.le_succ _
      split
      · exact Nat.le_succ _
      · exact Nat.le_refl _

theorem echoes_readExponent (negative : Bool) (digits : Nat) (scale : Int) (input : List UInt8) :
    Echoes blanks (input.length + 1) (readExponent negative digits scale input)
      (readExponent negative digits scale (input ++ blanks)) := by
  have most := length_readSign_le input
  unfold readExponent
  rw [readSign_append_blanks blank]
  dsimp only
  cases signed : (readSign input).2 with
  | nil =>
      rcases blanks_cases blank with rfl | ⟨b, rest, rfl, noDigit, _⟩
      · exact .refused _ _
      · rw [List.nil_append]
        dsimp only
        rw [noDigit]
        exact .refused _ _
  | cons b rest =>
      rw [signed, List.length_cons] at most
      rw [List.cons_append]
      dsimp only
      refine .ite (fun _ => ?_) fun _ => .refused _ _
      refine (echoes_readPower blank ((readSign input).1 && decide (digits ≠ 0)) (digitValue b) rest).elim
        (fun _ _ => .refused _ _) fun power behind _ shorter => ?_
      exact echoes_doubleOf _ _ _ (by omega)

theorem echoes_readFraction (negative : Bool) (whole dropped : Nat) (input : List UInt8) :
    Echoes blanks (input.length + 1) (readFraction negative whole dropped input)
      (readFraction negative whole dropped (input ++ blanks)) := by
  have most := length_readDigits_le ⟨whole, 0, 0⟩ input
  unfold readFraction
  rw [readDigits_append_blanks blank]
  dsimp only
  refine .ite (fun _ => .refused _ _) fun _ => ?_
  cases left : (readDigits ⟨whole, 0, 0⟩ input).2 with
  | nil =>
      rcases blanks_cases blank with rfl | ⟨b, rest, rfl, _, _, noSmall, noLarge, _⟩
      · exact echoes_doubleOf _ _ _ (Nat.succ_pos _)
      · rw [List.nil_append]
        dsimp only
        rw [decide_eq_false noSmall, decide_eq_false noLarge]
        exact echoes_doubleOf _ _ _ (Nat.succ_pos _)
  | cons b rest =>
      rw [left, List.length_cons] at most
      rw [List.cons_append]
      dsimp only
      refine .ite (fun _ => (echoes_readExponent blank _ _ _ rest).mono (by omega)) fun _ => ?_
      exact echoes_doubleOf _ _ _ (Nat.lt_succ_of_le most)

theorem echoes_readNumberTail (negative : Bool) (value dropped : Nat) (input : List UInt8) :
    Echoes blanks (input.length + 1) (readNumberTail negative value dropped input)
      (readNumberTail negative value dropped (input ++ blanks)) := by
  cases input with
  | nil =>
      rcases blanks_cases blank with rfl | ⟨b, rest, rfl, _, noPoint, noSmall, noLarge, _⟩
      · exact echoes_integerNumber _ _ _ (Nat.succ_pos _)
      · rw [List.nil_append, readNumberTail, readNumberTail, if_neg noPoint, decide_eq_false noSmall,
          decide_eq_false noLarge]
        exact echoes_integerNumber _ _ _ (Nat.succ_pos _)
  | cons b rest =>
      rw [List.cons_append, readNumberTail, readNumberTail]
      refine .ite (fun _ => (echoes_readFraction blank _ _ _ rest).mono (Nat.le_succ _)) fun _ => ?_
      refine .ite (fun _ => (echoes_readExponent blank _ _ _ rest).mono (Nat.le_succ _)) fun _ => ?_
      exact echoes_integerNumber _ _ _ (Nat.lt_succ_self _)

theorem startsWithDigit_append_blanks (input : List UInt8) :
    startsWithDigit (input ++ blanks) = startsWithDigit input := by
  cases input with
  | nil =>
      rcases blanks_cases blank with rfl | ⟨b, rest, rfl, noDigit, _⟩
      · rfl
      · exact noDigit
  | cons b rest => rfl

theorem echoes_readNumber (negative : Bool) (input : List UInt8) :
    Echoes blanks input.length (readNumber negative input) (readNumber negative (input ++ blanks)) := by
  cases input with
  | nil =>
      rcases blanks_cases blank with rfl | ⟨b, rest, rfl, noDigit, _⟩
      · exact .refused _ _
      · have notZero : b ≠ 0x30 := by
          rintro rfl
          cases noDigit
        rw [List.nil_append, readNumber, readNumber, if_neg notZero, noDigit]
        exact .refused _ _
  | cons b rest =>
      rw [List.cons_append, readNumber, readNumber, startsWithDigit_append_blanks blank,
        readDigits_append_blanks blank]
      refine .ite (fun _ => ?_) fun _ => .ite (fun _ => ?_) fun _ => .refused _ _
      · exact .ite (fun _ => .refused _ _) fun _ => echoes_readNumberTail blank _ _ _ rest
      · exact (echoes_readNumberTail blank _ _ _ _).mono (Nat.succ_le_succ (length_readDigits_le _ rest))

/-! ## Strings -/

omit blank in
theorem readHex_eq_ok {code : Nat} {rest : List UInt8} (read : readHex input = .ok (code, rest)) :
    ∃ a b c d, input = a :: b :: c :: d :: rest ∧ hexNumber? a b c d = some code := by
  unfold readHex at read
  split at read
  · split at read
    · rename_i found
      cases read
      exact ⟨_, _, _, _, rfl, found⟩
    · cases read
  · cases read

omit blank in
/-- A number in base sixteen has no blank among its digits. -/
theorem isBlank_of_hexNumber? {a b c d : UInt8} {code : Nat} (found : hexNumber? a b c d = some code) :
    isBlank a = false ∧ isBlank b = false ∧ isBlank c = false ∧ isBlank d = false := by
  have digit {x : UInt8} {n : Nat} (hex : hexValue? x = some n) : isBlank x = false := by
    rw [Bool.eq_false_iff]
    intro blank
    rcases cases_of_isBlank blank with rfl | rfl | rfl | rfl <;> cases hex
  unfold hexNumber? at found
  obtain ⟨_, first, found⟩ := Option.bind_eq_some_iff.1 found
  obtain ⟨_, second, found⟩ := Option.bind_eq_some_iff.1 found
  obtain ⟨_, third, found⟩ := Option.bind_eq_some_iff.1 found
  obtain ⟨_, fourth, _⟩ := Option.bind_eq_some_iff.1 found
  exact ⟨digit first, digit second, digit third, digit fourth⟩

theorem echoes_readHex (input : List UInt8) :
    Echoes blanks input.length (readHex input) (readHex (input ++ blanks)) := by
  cases read' : readHex (input ++ blanks) with
  | error fault' =>
      cases read : readHex input with
      | error fault => exact .refused _ _
      | ok found =>
          obtain ⟨a, b, c, d, rfl, number⟩ := readHex_eq_ok read
          simp [readHex, number] at read'
  | ok found =>
      obtain ⟨a, b, c, d, whole, number⟩ := readHex_eq_ok read'
      obtain ⟨first, second, third, fourth⟩ := isBlank_of_hexNumber? number
      -- Had the input fewer than four bytes, one of the digits would be a blank.
      have among (x : UInt8) (visible : isBlank x = false) : x ∉ blanks := fun inside =>
        nomatch visible.symm.trans (blank x inside)
      match input with
      | a' :: b' :: c' :: d' :: rest =>
          simp only [List.cons_append, List.cons.injEq] at whole
          obtain ⟨rfl, rfl, rfl, rfl, behind⟩ := whole
          rw [readHex, number]
          exact .read ⟨Prod.ext rfl behind.symm, by simp only [List.length_cons]; omega⟩
      | [] => exact absurd (by rw [← List.nil_append blanks, whole]; simp) (among a first)
      | [a'] =>
          simp only [List.cons_append, List.nil_append, List.cons.injEq] at whole
          exact absurd (by rw [whole.2]; simp) (among b second)
      | [a', b'] =>
          simp only [List.cons_append, List.nil_append, List.cons.injEq] at whole
          exact absurd (by rw [whole.2.2]; simp) (among c third)
      | [a', b', c'] =>
          simp only [List.cons_append, List.nil_append, List.cons.injEq] at whole
          exact absurd (by rw [whole.2.2.2]; simp) (among d fourth)

omit blank in
theorem length_of_readHex {code : Nat} {rest : List UInt8} (read : readHex input = .ok (code, rest)) :
    rest.length + 4 = input.length := by
  obtain ⟨a, b, c, d, rfl, _⟩ := readHex_eq_ok read
  rfl

theorem echoes_readPair (leading : Nat) (input : List UInt8) :
    Echoes blanks input.length (readPair leading input) (readPair leading (input ++ blanks)) := by
  have other {b : UInt8} (inside : b ∈ blanks) : b ≠ 0x5C ∧ b ≠ 0x75 := by
    rcases cases_of_isBlank (blank b inside) with rfl | rfl | rfl | rfl <;> decide
  unfold readPair
  cases input with
  | nil =>
      cases blanks with
      | nil => exact .refused _ _
      | cons b rest =>
          rw [List.nil_append]
          dsimp only
          rw [if_neg (other List.mem_cons_self).1]
          exact .refused _ _
  | cons first rest =>
      rw [List.cons_append]
      dsimp only
      refine .ite (fun _ => ?_) fun _ => .refused _ _
      cases rest with
      | nil =>
          cases blanks with
          | nil => exact .refused _ _
          | cons b more =>
              rw [List.nil_append]
              dsimp only
              rw [if_neg (other List.mem_cons_self).2]
              exact .refused _ _
      | cons letter rest =>
          rw [List.cons_append]
          dsimp only
          refine .ite (fun _ => ?_) fun _ => .refused _ _
          refine (echoes_readHex blank rest).elim (fun _ _ => .refused _ _) fun trailing behind _ shorter => ?_
          refine .ite (fun _ => Echoes.found _ ?_) fun _ => .refused _ _
          simp only [List.length_cons]
          omega

theorem echoes_readCodePoint (input : List UInt8) :
    Echoes blanks input.length (readCodePoint input) (readCodePoint (input ++ blanks)) := by
  unfold readCodePoint
  refine (echoes_readHex blank input).elim (fun _ _ => .refused _ _) fun code behind _ shorter => ?_
  refine .ite (fun _ => .refused _ _) fun _ => .ite (fun _ => ?_) fun _ => Echoes.found _ shorter
  exact (echoes_readPair blank code behind).mono (Nat.le_of_lt shorter)

theorem echoes_readEscape (input : List UInt8) :
    Echoes blanks input.length (readEscape input) (readEscape (input ++ blanks)) := by
  cases input with
  | nil =>
      cases blanks with
      | nil => exact .refused _ _
      | cons b rest =>
          have other : b ≠ 0x75 ∧ escapedChar? b = none := by
            rcases cases_of_isBlank (blank b List.mem_cons_self) with rfl | rfl | rfl | rfl <;> decide
          rw [List.nil_append, readEscape, readEscape, if_neg other.1, other.2]
          exact .refused _ _
  | cons letter rest =>
      rw [List.cons_append, readEscape, readEscape]
      refine .ite (fun _ => (echoes_readCodePoint blank rest).mono (Nat.le_succ _)) fun _ => ?_
      cases escapedChar? letter with
      | none => exact .refused _ _
      | some c => exact Echoes.found _ (Nat.lt_succ_self _)

theorem scanString_of_blanks (fuel : Nat) (seen : List UInt8) :
    ∃ fault, scanString fuel seen blanks = .error fault := by
  induction fuel generalizing seen blanks with
  | zero => exact ⟨_, rfl⟩
  | succ fuel ih =>
      cases blanks with
      | nil => exact ⟨_, rfl⟩
      | cons b rest =>
          have other : b ≠ 0x22 ∧ b ≠ 0x5C := by
            rcases cases_of_isBlank (blank b List.mem_cons_self) with rfl | rfl | rfl | rfl <;> decide
          rw [scanString, if_neg other.1, if_neg other.2]
          split
          · exact ⟨_, rfl⟩
          · exact ih (fun c inside => blank c (List.mem_cons_of_mem b inside)) _

theorem echoes_scanString (enough : input.length ≤ fuel) (enough' : input.length + blanks.length ≤ fuel')
    (seen : List UInt8) :
    Echoes blanks input.length (scanString fuel seen input) (scanString fuel' seen (input ++ blanks)) := by
  induction fuel generalizing fuel' seen input with
  | zero =>
      obtain rfl := List.length_eq_zero_iff.1 (Nat.le_zero.1 enough)
      obtain ⟨fault', refused⟩ := scanString_of_blanks blank fuel' seen
      rw [List.nil_append, refused]
      exact .refused _ _
  | succ fuel ih =>
      cases input with
      | nil =>
          obtain ⟨fault', refused⟩ := scanString_of_blanks blank fuel' seen
          rw [List.nil_append, refused]
          exact .refused _ _
      | cons b rest =>
          rw [List.length_cons] at enough enough'
          obtain ⟨fuel', rfl⟩ : ∃ less, fuel' = less + 1 := ⟨fuel' - 1, by omega⟩
          rw [List.cons_append, scanString, scanString]
          refine .ite (fun _ => Echoes.found _ (Nat.lt_succ_self _)) fun _ => .ite (fun _ => ?_) fun _ => ?_
          · refine (echoes_readEscape blank rest).elim (fun _ _ => .refused _ _) fun c behind _ shorter => ?_
            exact (ih (by omega) (by omega) _).mono (by rw [List.length_cons]; omega)
          · refine .ite (fun _ => .refused _ _) fun _ => ?_
            exact (ih (by omega) (by omega) _).mono (Nat.le_succ _)

theorem echoes_readString (enough : input.length ≤ fuel) (enough' : input.length + blanks.length ≤ fuel') :
    Echoes blanks input.length (readString fuel input) (readString fuel' (input ++ blanks)) := by
  unfold readString
  refine (echoes_scanString blank enough enough' []).elim (fun _ _ => .refused _ _) fun bytes behind _ shorter => ?_
  dsimp only
  cases Utf8.toString? bytes with
  | none => exact .refused _ _
  | some text => exact Echoes.found _ shorter

end

/-! ## The text of a string -/

theorem length_of_readPair {leading : Nat} {c : Char} {rest : List UInt8}
    (read : readPair leading input = .ok (c, rest)) : rest.length + 6 = input.length := by
  obtain ⟨code, after, rfl, hex⟩ := readPair_rest read
  rw [List.length_cons, List.length_cons, ← length_of_readHex hex]

/-- An escape has no fewer bytes than the character that it stands for, its backslash not counted. -/
theorem length_of_readEscape {c : Char} {rest : List UInt8} (read : readEscape input = .ok (c, rest)) :
    (Utf8.encodeChar c).length + rest.length ≤ input.length := by
  have four := (Utf8.length_encodeChar_le c).1
  unfold readEscape at read
  split at read
  · cases read
  rename_i letter behind
  rw [List.length_cons]
  split at read
  · unfold readCodePoint at read
    split at read
    · cases read
    rename_i code after hex
    have digits := length_of_readHex hex
    split at read
    · cases read
    split at read
    · have pair := length_of_readPair read
      omega
    · cases read
      omega
  · split at read
    · rename_i c' found
      cases read
      have one : (Utf8.encodeChar c).length = 1 := by
        unfold escapedChar? at found
        repeat' split at found
        all_goals first | (cases found; rfl) | cases found
      omega
    · cases read

theorem length_of_scanString {seen bytes rest : List UInt8}
    (read : scanString fuel seen input = .ok (bytes, rest)) :
    bytes.length + rest.length < seen.length + input.length := by
  induction fuel generalizing seen input with
  | zero => cases read
  | succ fuel ih =>
      cases input with
      | nil => cases read
      | cons b behind =>
          rw [scanString] at read
          rw [List.length_cons]
          split at read
          · cases read
            rw [List.length_reverse]
            omega
          split at read
          · split at read
            · cases read
            · rename_i c after escape
              have stood := length_of_readEscape escape
              have later := ih read
              rw [List.length_append, List.length_reverse] at later
              omega
          split at read
          · cases read
          · have later := ih read
            rw [List.length_cons] at later
            omega

/-- The text of a string has fewer bytes than the string. -/
theorem length_of_readString {text : String} {rest : List UInt8}
    (read : readString fuel input = .ok (text, rest)) :
    (Utf8.ofString text).length + rest.length < input.length := by
  obtain ⟨bytes, scanned, decoded⟩ := scanString_of_readString read
  have whole := length_of_scanString scanned
  have spelled := Utf8.length_ofString_le decoded
  rw [List.length_nil] at whole
  omega

end EventFeed.Json
