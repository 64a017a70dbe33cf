import EventFeed.Json.Scanner
import EventFeed.Proofs.Text.Utf8
import Mathlib.Data.List.Basic

/-!
# Strings and numbers come back

A string that was written between quotes is read as the same string, whatever characters it holds, and the
digits of an integer are read as that integer when what follows cannot belong to a number. No byte of
either is below the blank.
-/

namespace EventFeed.Json

/-! ## Strings -/

/-- A byte that stands for itself between quotes. -/
def Plain (b : UInt8) : Prop :=
  b ≠ 0x22 ∧ b ≠ 0x5C ∧ 0x20 ≤ b.toNat

theorem scanString_plain {bytes : List UInt8} (plain : ∀ b ∈ bytes, Plain b) (left : Nat)
    (seen rest : List UInt8) :
    scanString (bytes.length + left) seen (bytes ++ rest) = scanString left (bytes.reverse ++ seen) rest := by
  induction bytes generalizing seen with
  | nil => rw [List.length_nil, Nat.zero_add, List.nil_append, List.reverse_nil, List.nil_append]
  | cons b bytes hypothesis =>
      obtain ⟨noQuote, noBackslash, visible⟩ := plain b List.mem_cons_self
      have above : ¬ b < 0x20 := by
        rw [UInt8.lt_iff_toNat_lt]
        exact Nat.not_lt.2 visible
      rw [List.length_cons, Nat.add_right_comm, List.cons_append, scanString, if_neg noQuote, if_neg noBackslash,
        if_neg above, hypothesis (fun other inside => plain other (List.mem_cons_of_mem _ inside)),
        List.reverse_cons, List.append_assoc, List.singleton_append]

theorem plain_of_mem_encodeChar {c : Char} (noQuote : c ≠ '"') (noBackslash : c ≠ '\\')
    (visible : 32 ≤ c.toNat) {b : UInt8} (inside : b ∈ Utf8.encodeChar c) : Plain b := by
  by_cases small : c.toNat < 0x80
  · rw [Utf8.encodeChar_of_lt small, List.mem_singleton] at inside
    have same : b.toNat = c.toNat := by
      rw [inside, UInt8.toNat_ofNat']
      omega
    have other {d : Char} (different : c ≠ d) : b.toNat ≠ d.toNat := by
      intro equal
      exact different (Char.toNat_inj.1 (same.symm.trans equal))
    refine ⟨?_, ?_, same ▸ visible⟩
    · rintro rfl
      exact other noQuote rfl
    · rintro rfl
      exact other noBackslash rfl
  · have large := Utf8.le_of_mem_encodeChar (Nat.le_of_not_lt small) inside
    refine ⟨?_, ?_, Nat.le_trans (by decide) large⟩
    · rintro rfl
      exact absurd large (by decide)
    · rintro rfl
      exact absurd large (by decide)

/-- Two digits in base sixteen spell a number below 32. -/
theorem hexNumber?_of_lt {n : Nat} (small : n < 32) :
    hexNumber? 0x30 0x30 (UInt8.ofNat (Nat.digitChar (n / 16)).toNat)
      (UInt8.ofNat (Nat.digitChar (n % 16)).toNat) = some n := by
  have all : ∀ n < 32, hexNumber? 0x30 0x30 (UInt8.ofNat (Nat.digitChar (n / 16)).toNat)
      (UInt8.ofNat (Nat.digitChar (n % 16)).toNat) = some n := by decide
  exact all n small

theorem encodeChar_digitChar {n : Nat} (small : n < 16) :
    Utf8.encodeChar (Nat.digitChar n) = [UInt8.ofNat (Nat.digitChar n).toNat] := by
  have all : ∀ n < 16, Utf8.encodeChar (Nat.digitChar n) = [UInt8.ofNat (Nat.digitChar n).toNat] := by decide
  exact all n small

theorem encode_hexByte {n : Nat} (small : n < 256) :
    Utf8.encode (hexByte n) =
      [UInt8.ofNat (Nat.digitChar (n / 16)).toNat, UInt8.ofNat (Nat.digitChar (n % 16)).toNat] := by
  rw [hexByte, Utf8.encode_cons, Utf8.encode_cons, encodeChar_digitChar (by omega),
    encodeChar_digitChar (by omega)]
  rfl

/-- An escape for the number of a control character is read as that character. -/
theorem readEscape_control {c : Char} (control : c.toNat < 32) (rest : List UInt8) :
    readEscape (Utf8.encode (['u', '0', '0'] ++ hexByte c.toNat) ++ rest) = .ok (c, rest) := by
  have spelled : Utf8.encode (['u', '0', '0'] ++ hexByte c.toNat) =
      [0x75, 0x30, 0x30, UInt8.ofNat (Nat.digitChar (c.toNat / 16)).toNat,
        UInt8.ofNat (Nat.digitChar (c.toNat % 16)).toNat] := by
    rw [Utf8.encode_append, encode_hexByte (by omega)]
    rfl
  have noTrailing : isTrailingSurrogate c.toNat = false := by
    rw [isTrailingSurrogate, decide_eq_false (by omega), Bool.false_and]
  have noLeading : isLeadingSurrogate c.toNat = false := by
    rw [isLeadingSurrogate, decide_eq_false (by omega), Bool.false_and]
  have number : readHex ([0x30, 0x30, UInt8.ofNat (Nat.digitChar (c.toNat / 16)).toNat,
      UInt8.ofNat (Nat.digitChar (c.toNat % 16)).toNat] ++ rest) = .ok (c.toNat, rest) := by
    simp only [List.cons_append, List.nil_append, readHex, hexNumber?_of_lt control]
  rw [spelled, List.cons_append, readEscape, if_pos rfl, readCodePoint, number]
  dsimp only
  rw [noTrailing, noLeading, Char.ofNat_toNat]
  rfl

/-- A character that is written with an escape. -/
theorem exists_escape {c : Char} (special : c = '"' ∨ c = '\\' ∨ c.toNat < 32) :
    ∃ behind, Utf8.encode (escapeChar c) = 0x5C :: behind ∧
      ∀ rest, readEscape (behind ++ rest) = .ok (c, rest) := by
  unfold escapeChar
  split
  · rename_i quote
    exact ⟨[0x22], rfl, fun rest => by rw [quote]; rfl⟩
  split
  · rename_i backslash
    exact ⟨[0x5C], rfl, fun rest => by rw [backslash]; rfl⟩
  split
  · rename_i number
    exact ⟨[0x62], rfl, fun rest => by rw [← Char.ofNat_toNat c, number]; rfl⟩
  split
  · rename_i number
    exact ⟨[0x74], rfl, fun rest => by rw [← Char.ofNat_toNat c, number]; rfl⟩
  split
  · rename_i number
    exact ⟨[0x6E], rfl, fun rest => by rw [← Char.ofNat_toNat c, number]; rfl⟩
  split
  · rename_i number
    exact ⟨[0x66], rfl, fun rest => by rw [← Char.ofNat_toNat c, number]; rfl⟩
  split
  · rename_i number
    exact ⟨[0x72], rfl, fun rest => by rw [← Char.ofNat_toNat c, number]; rfl⟩
  split
  · rename_i control
    exact ⟨_, rfl, readEscape_control control⟩
  · rename_i noQuote noBackslash _ _ _ _ _ visible
    rcases special with quote | backslash | control
    · exact absurd quote noQuote
    · exact absurd backslash noBackslash
    · exact absurd control visible

theorem escapeChar_of_plain {c : Char} (noQuote : c ≠ '"') (noBackslash : c ≠ '\\') (visible : 32 ≤ c.toNat) :
    escapeChar c = [c] := by
  rw [escapeChar, if_neg noQuote, if_neg noBackslash, if_neg (by omega), if_neg (by omega), if_neg (by omega),
    if_neg (by omega), if_neg (by omega), if_neg (by omega)]

/-- One character of a string is read, and no more fuel is used than it has bytes. -/
theorem scanString_escapeChar (c : Char) (seen rest : List UInt8) {fuel needed : Nat}
    (enough : (Utf8.encode (escapeChar c)).length + needed ≤ fuel) :
    ∃ left, needed ≤ left ∧
      scanString fuel seen (Utf8.encode (escapeChar c) ++ rest) =
        scanString left ((Utf8.encodeChar c).reverse ++ seen) rest := by
  by_cases special : c = '"' ∨ c = '\\' ∨ c.toNat < 32
  · obtain ⟨behind, spelled, escapes⟩ := exists_escape special
    rw [spelled] at enough ⊢
    rw [List.length_cons] at enough
    cases fuel with
    | zero => omega
    | succ left =>
        refine ⟨left, by omega, ?_⟩
        rw [List.cons_append, scanString, if_neg (by decide), if_pos rfl, escapes]
  · simp only [not_or, Nat.not_lt] at special
    obtain ⟨noQuote, noBackslash, visible⟩ := special
    rw [escapeChar_of_plain noQuote noBackslash visible, Utf8.encode_cons, Utf8.encode, List.flatMap_nil,
      List.append_nil] at enough ⊢
    obtain ⟨left, rfl⟩ := Nat.exists_eq_add_of_le (Nat.le_trans (Nat.le_add_right _ needed) enough)
    exact ⟨left, by omega,
      scanString_plain (fun b inside => plain_of_mem_encodeChar noQuote noBackslash visible inside) left seen rest⟩

theorem scanString_escaped (text : List Char) (seen tail : List UInt8) {fuel : Nat}
    (enough : (Utf8.encode (text.flatMap escapeChar)).length < fuel) :
    scanString fuel seen (Utf8.encode (text.flatMap escapeChar) ++ 0x22 :: tail) =
      .ok (seen.reverse ++ Utf8.encode text, tail) := by
  induction text generalizing seen fuel with
  | nil =>
      cases fuel with
      | zero => cases enough
      | succ left =>
          rw [List.flatMap_nil, Utf8.encode, List.flatMap_nil, List.nil_append, scanString, if_pos rfl,
            List.append_nil]
  | cons c text hypothesis =>
      rw [List.flatMap_cons, Utf8.encode_append, List.length_append] at enough
      rw [List.flatMap_cons, Utf8.encode_append, List.append_assoc]
      have first : (Utf8.encode (escapeChar c)).length + ((Utf8.encode (text.flatMap escapeChar)).length + 1) ≤
          fuel := by
        omega
      obtain ⟨left, more, scanned⟩ := scanString_escapeChar c seen
        (Utf8.encode (text.flatMap escapeChar) ++ 0x22 :: tail) first
      rw [scanned, hypothesis _ more, Utf8.encode_cons, List.reverse_append, List.reverse_reverse,
        List.append_assoc]

/-- A string between quotes comes back, whatever stands behind it. -/
theorem readString_quoted (text : String) (tail : List UInt8) {fuel : Nat}
    (enough : (Utf8.encode (quoted text)).length ≤ fuel) :
    ∃ behind, Utf8.encode (quoted text) ++ tail = 0x22 :: behind ∧ readString fuel behind = .ok (text, tail) := by
  have spelled :
      Utf8.encode (quoted text) = 0x22 :: (Utf8.encode (text.toList.flatMap escapeChar) ++ [0x22]) := by
    rw [quoted, Utf8.encode_cons, Utf8.encode_append]
    rfl
  rw [spelled, List.length_cons, List.length_append] at enough
  have behind : (Utf8.encode (text.toList.flatMap escapeChar)).length < fuel := by
    omega
  have scanned := scanString_escaped text.toList [] tail behind
  refine ⟨_, by rw [spelled, List.cons_append, List.append_assoc, List.singleton_append], ?_⟩
  rw [readString, scanned]
  dsimp only
  rw [List.reverse_nil, List.nil_append, Utf8.toString?_encode]

/-! ## Numbers -/

/-- Nothing in front that could belong to a number before it. -/
def EndsNumber (tail : List UInt8) : Prop :=
  ∀ b ∈ tail.head?, isDigit b = false ∧ b ≠ 0x2E ∧ b ≠ 0x65 ∧ b ≠ 0x45

theorem endsNumber_nil : EndsNumber [] := by
  intro b inside
  cases inside

theorem endsNumber_cons {b : UInt8} {rest : List UInt8}
    (ends : isDigit b = false ∧ b ≠ 0x2E ∧ b ≠ 0x65 ∧ b ≠ 0x45) : EndsNumber (b :: rest) := by
  intro c inside
  cases inside
  exact ends

theorem toNat_of_isDigit {c : Char} (digit : c.isDigit) : 48 ≤ c.toNat ∧ c.toNat ≤ 57 :=
  Char.isDigit_iff_toNat.1 digit

theorem encodeChar_of_isDigit {c : Char} (digit : c.isDigit) : Utf8.encodeChar c = [UInt8.ofNat c.toNat] :=
  Utf8.encodeChar_of_lt (by have := toNat_of_isDigit digit; omega)

theorem isDigit_ofNat {c : Char} (digit : c.isDigit) : isDigit (UInt8.ofNat c.toNat) = true := by
  obtain ⟨least, most⟩ := toNat_of_isDigit digit
  have all : ∀ n < 58, 48 ≤ n → isDigit (UInt8.ofNat n) = true := by decide
  exact all c.toNat (by omega) least

theorem digitValue_ofNat {c : Char} (digit : c.isDigit) :
    digitValue (UInt8.ofNat c.toNat) = c.toNat - '0'.toNat := by
  obtain ⟨least, most⟩ := toNat_of_isDigit digit
  rw [digitValue, UInt8.toNat_ofNat']
  have zero : '0'.toNat = 0x30 := rfl
  omega

theorem readDigits_of_endsNumber {tail : List UInt8} (ends : EndsNumber tail) (digits : Significand) :
    readDigits digits tail = (digits, tail) := by
  cases tail with
  | nil => rfl
  | cons b rest =>
      obtain ⟨noDigit, _⟩ := ends b rfl
      rw [readDigits, noDigit]
      rfl

theorem le_ofDigitChars (digits : List Char) (n : Nat) : n ≤ Nat.ofDigitChars 10 digits n := by
  induction digits generalizing n with
  | nil => exact Nat.le_refl n
  | cons c digits hypothesis =>
      rw [Nat.ofDigitChars_cons]
      exact Nat.le_trans (by omega) (hypothesis _)

/-- Digits are kept as long as a 64-bit word holds what they come to. -/
theorem readDigits_append {digits : List Char} (all : ∀ c ∈ digits, c.isDigit) {tail : List UInt8}
    (ends : EndsNumber tail) (value kept : Nat) (small : Nat.ofDigitChars 10 digits value < UInt64.size) :
    readDigits ⟨value, kept, 0⟩ (Utf8.encode digits ++ tail) =
      (⟨Nat.ofDigitChars 10 digits value, kept + digits.length, 0⟩, tail) := by
  induction digits generalizing value kept with
  | nil => exact readDigits_of_endsNumber ends _
  | cons c digits hypothesis =>
      have digit := all c List.mem_cons_self
      rw [Nat.ofDigitChars_cons] at small ⊢
      have fits : value * 10 + (c.toNat - '0'.toNat) < UInt64.size := by
        rw [Nat.mul_comm]
        exact Nat.lt_of_le_of_lt (le_ofDigitChars digits _) small
      rw [Utf8.encode_cons, encodeChar_of_isDigit digit, List.singleton_append, List.cons_append, readDigits,
        if_pos (isDigit_ofNat digit), digitValue_ofNat digit, Significand.add, if_pos ⟨rfl, fits⟩, Nat.mul_comm,
        hypothesis (fun d inside => all d (List.mem_cons_of_mem _ inside)) _ _ small, List.length_cons,
        Nat.add_right_comm, Nat.add_assoc]

/-- The digits of a number begin with zero for zero only. -/
theorem exists_toDigits (n : Nat) :
    ∃ first rest, Nat.toDigits 10 n = first :: rest ∧ (first = '0' → n = 0 ∧ rest = []) := by
  induction n using Nat.strongRecOn with
  | ind n hypothesis =>
      rw [Nat.toDigits_eq_if (by decide)]
      split
      · rename_i small
        refine ⟨_, [], rfl, ?_⟩
        intro zero
        exact ⟨Nat.digitChar_eq_zero.1 zero, rfl⟩
      · rename_i large
        obtain ⟨first, rest, digits, alone⟩ := hypothesis (n / 10) (by omega)
        refine ⟨first, rest ++ [Nat.digitChar (n % 10)], by rw [digits, List.cons_append], ?_⟩
        intro zero
        have := (alone zero).1
        omega

theorem readNumberTail_of_endsNumber {tail : List UInt8} (ends : EndsNumber tail) (negative : Bool)
    (value dropped : Nat) :
    readNumberTail negative value dropped tail = integerNumber negative value dropped tail := by
  cases tail with
  | nil => rfl
  | cons b rest =>
      obtain ⟨_, noPoint, noLower, noUpper⟩ := ends b rfl
      rw [readNumberTail, if_neg noPoint, if_neg (by simp [noLower, noUpper])]

theorem startsWithDigit_of_endsNumber {tail : List UInt8} (ends : EndsNumber tail) :
    startsWithDigit tail = false := by
  cases tail with
  | nil => rfl
  | cons b rest => exact (ends b rfl).1

/-- The digits of a number that a 64-bit word holds are read as that number, with the sign in front of them. -/
theorem readNumber_toDigits (negative : Bool) {n : Nat} (small : n < UInt64.size) {tail : List UInt8}
    (ends : EndsNumber tail) :
    readNumber negative (Utf8.encode (Nat.toDigits 10 n) ++ tail) = integerNumber negative n 0 tail := by
  obtain ⟨first, rest, digits, alone⟩ := exists_toDigits n
  have all : ∀ c ∈ first :: rest, c.isDigit := by
    intro c inside
    rw [← digits] at inside
    exact Nat.isDigit_of_mem_toDigits (by decide) (by decide) inside
  have digit := all first List.mem_cons_self
  have spelled : Nat.ofDigitChars 10 (first :: rest) 0 = n := by
    rw [← digits]
    exact Nat.ofDigitChars_ten_toDigits
  rw [digits, Utf8.encode_cons, encodeChar_of_isDigit digit, List.singleton_append, List.cons_append, readNumber]
  by_cases zero : first = '0'
  · obtain ⟨rfl, rfl⟩ := alone zero
    rw [if_pos (by rw [zero]; rfl), Utf8.encode, List.flatMap_nil, List.nil_append,
      startsWithDigit_of_endsNumber ends]
    exact readNumberTail_of_endsNumber ends negative 0 0
  · have nonzero : UInt8.ofNat first.toNat ≠ 0x30 := by
      intro same
      apply zero
      apply Char.toNat_inj.1
      have value := congrArg UInt8.toNat same
      obtain ⟨least, most⟩ := toNat_of_isDigit digit
      rw [UInt8.toNat_ofNat', Nat.mod_eq_of_lt (by omega)] at value
      exact value
    rw [Nat.ofDigitChars_cons, Nat.mul_zero, Nat.zero_add] at spelled
    rw [if_neg nonzero, if_pos (isDigit_ofNat digit), digitValue_ofNat digit,
      readDigits_append (fun c inside => all c (List.mem_cons_of_mem _ inside)) ends _ _ (by rwa [spelled])]
    dsimp only
    rw [spelled, readNumberTail_of_endsNumber ends]

/-- An integer of the 64-bit ranges, or minus zero, which is what a minus and a zero stand for. -/
def IsWhole : Number → Prop
  | .integer _ _ => True
  | .double value => value = Binary64.zero true

instance : DecidablePred IsWhole
  | .integer _ _ => .isTrue trivial
  | .double value => inferInstanceAs (Decidable (value = Binary64.zero true))

theorem integerNumber_natAbs (value : Int)
    (inRange : -9223372036854775808 ≤ value ∧ value < 18446744073709551616) (tail : List UInt8) :
    integerNumber (value < 0) value.natAbs 0 tail = .ok (.integer value inRange, tail) := by
  by_cases negative : value < 0
  · have small : 0 < value.natAbs ∧ value.natAbs ≤ 9223372036854775808 := by omega
    have same : -(value.natAbs : Int) = value := by omega
    rw [integerNumber, decide_eq_true negative, if_pos rfl, dif_pos ⟨rfl, small⟩]
    simp only [same]
  · have small : value.natAbs < 18446744073709551616 := by omega
    have same : (value.natAbs : Int) = value := by omega
    rw [integerNumber, decide_eq_false negative, if_neg Bool.false_ne_true, dif_pos ⟨rfl, small⟩]
    simp only [same]

theorem readNumber_minusZero {tail : List UInt8} (ends : EndsNumber tail) :
    readNumber true ([0x30, 0x2E, 0x30] ++ tail) = .ok (.double (Binary64.zero true), tail) := by
  have fraction : readDigits ⟨0, 0, 0⟩ (0x30 :: tail) = (⟨0, 1, 0⟩, tail) := by
    rw [readDigits, if_pos (by decide), readDigits_of_endsNumber ends]
    rfl
  have double (rest : List UInt8) (exponent : Int) :
      doubleOf true 0 exponent rest = .ok (.double (Binary64.zero true), rest) := by
    rw [doubleOf, Binary64.ofDecimal_zero]
  have behind : readNumber true ([0x30, 0x2E, 0x30] ++ tail) = readFraction true 0 0 (0x30 :: tail) := rfl
  rw [behind, readFraction, fraction]
  dsimp only
  rw [if_neg (by decide)]
  cases tail with
  | nil => exact double _ _
  | cons b rest =>
      obtain ⟨_, _, noLower, noUpper⟩ := ends b rfl
      simp only [noLower, noUpper, decide_false, Bool.or_false, Bool.false_eq_true, ↓reduceIte]
      exact double _ _

/-- A whole number comes back when nothing stands behind it that could belong to it: a minus or a digit is in
front, and the number behind it. -/
theorem readNumber_numberChars {number : Number} (whole : IsWhole number) {tail : List UInt8}
    (ends : EndsNumber tail) :
    (∃ behind, Utf8.encode (numberChars number) ++ tail = 0x2D :: behind ∧
      readNumber true behind = .ok (number, tail)) ∨
    ∃ first behind, Utf8.encode (numberChars number) ++ tail = first :: behind ∧ isDigit first = true ∧
      readNumber false (first :: behind) = .ok (number, tail) := by
  cases number with
  | integer value inRange =>
      have small : value.natAbs < UInt64.size := by
        rw [UInt64.size]
        omega
      have read := (readNumber_toDigits (value < 0) small ends).trans (integerNumber_natAbs value inRange tail)
      rw [numberChars, integerChars]
      split
      · rename_i negative
        rw [decide_eq_true negative] at read
        exact .inl ⟨_, rfl, read⟩
      · rename_i positive
        obtain ⟨first, rest, digits, _⟩ := exists_toDigits value.natAbs
        have digit : first.isDigit :=
          Nat.isDigit_of_mem_toDigits (by decide) (by decide) (digits ▸ List.mem_cons_self)
        rw [decide_eq_false positive] at read
        have front : Utf8.encode (Nat.toDigits 10 value.natAbs) ++ tail =
            UInt8.ofNat first.toNat :: (Utf8.encode rest ++ tail) := by
          rw [digits, Utf8.encode_cons, encodeChar_of_isDigit digit, List.singleton_append, List.cons_append]
        exact .inr ⟨_, _, front, isDigit_ofNat digit, front ▸ read⟩
  | double value =>
      cases whole
      exact .inl ⟨[0x30, 0x2E, 0x30] ++ tail, rfl, readNumber_minusZero ends⟩

/-! ## Visible bytes -/

def Visible (text : List Char) : Prop :=
  ∀ c ∈ text, 32 ≤ c.toNat

instance (text : List Char) : Decidable (Visible text) :=
  List.decidableBAll (fun c : Char => 32 ≤ c.toNat) text

theorem Visible.le_of_mem_encode {text : List Char} (visible : Visible text) {b : UInt8}
    (inside : b ∈ Utf8.encode text) : 0x20 ≤ b.toNat := by
  obtain ⟨c, here, byte⟩ := List.mem_flatMap.1 inside
  by_cases small : c.toNat < 0x80
  · rw [Utf8.encodeChar_of_lt small, List.mem_singleton] at byte
    rw [byte, UInt8.toNat_ofNat', Nat.mod_eq_of_lt (by omega)]
    exact visible c here
  · exact Nat.le_trans (by decide) (Utf8.le_of_mem_encodeChar (Nat.le_of_not_lt small) byte)

theorem visible_append {first second : List Char} (here : Visible first) (there : Visible second) :
    Visible (first ++ second) := by
  intro c inside
  rcases List.mem_append.1 inside with early | late
  · exact here c early
  · exact there c late

theorem visible_cons {c : Char} {text : List Char} (here : 32 ≤ c.toNat) (there : Visible text) :
    Visible (c :: text) :=
  List.forall_mem_cons.2 ⟨here, there⟩

theorem visible_of_isDigit {text : List Char} (all : ∀ c ∈ text, c.isDigit) : Visible text := by
  intro c inside
  have := toNat_of_isDigit (all c inside)
  omega

theorem visible_hexByte {n : Nat} (small : n < 256) : Visible (hexByte n) := by
  have all : ∀ d < 16, 32 ≤ (Nat.digitChar d).toNat := by decide
  exact visible_cons (all (n / 16) (by omega)) (visible_cons (all (n % 16) (by omega)) (by decide))

theorem visible_escapeChar (c : Char) : Visible (escapeChar c) := by
  unfold escapeChar
  split
  · decide
  split
  · decide
  split
  · decide
  split
  · decide
  split
  · decide
  split
  · decide
  split
  · decide
  split
  · exact visible_append (by decide) (visible_hexByte (by omega))
  · rename_i visible
    exact visible_cons (Nat.le_of_not_lt visible) (by decide)

theorem visible_quoted (text : String) : Visible (quoted text) := by
  have between : Visible (text.toList.flatMap escapeChar) := by
    intro c inside
    obtain ⟨d, _, here⟩ := List.mem_flatMap.1 inside
    exact visible_escapeChar d c here
  exact visible_cons (by decide) (visible_append between (by decide))

theorem visible_numberChars {number : Number} (whole : IsWhole number) : Visible (numberChars number) := by
  cases number with
  | integer value _ =>
      have digits : Visible (Nat.toDigits 10 value.natAbs) :=
        visible_of_isDigit fun c inside => Nat.isDigit_of_mem_toDigits (by decide) (by decide) inside
      rw [numberChars, integerChars]
      split
      · exact visible_cons (by decide) digits
      · exact digits
  | double value =>
      cases whole
      decide

end EventFeed.Json
