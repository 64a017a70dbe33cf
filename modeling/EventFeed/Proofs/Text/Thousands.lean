import Mathlib
import EventFeed.Proofs.Json.Pieces
import EventFeed.Text.Thousands

/-!
# Groups of digits

Whether a comma follows a digit is decided from the front, by what is left, but the groups are counted from the
end. So every row of digits is cut into groups first, the short one in front, and then nothing is written but the
groups. The text that comes of a number is the only one of this form that has the number's digits.
-/

namespace EventFeed.Text

variable {digits first more text : List Char} {groups : List (List Char)} {n : Nat}

/-! ## Groups -/

/-- Some digits, and groups of digits with a comma before each. -/
def joined (first : List Char) (groups : List (List Char)) : List Char :=
  first ++ groups.flatMap fun group => ',' :: group

/-- One to three digits in front, and three in every group behind them. -/
structure Grouping (first : List Char) (groups : List (List Char)) : Prop where
  some : first ≠ []
  few : first.length ≤ 3
  three : ∀ group ∈ groups, group.length = 3

/-- A text of one to three digits, and of groups behind them that are a comma and three digits each. -/
def InGroups (text : List Char) : Prop :=
  ∃ first groups, Grouping first groups ∧ (∀ c ∈ first ++ groups.flatten, c.isDigit) ∧ text = joined first groups

def withoutCommas (text : List Char) : List Char :=
  text.filter (· ≠ ',')

theorem Grouping.length_flatten (grouping : Grouping first groups) : groups.flatten.length % 3 = 0 := by
  have lengths : groups.map List.length = groups.map fun _ => 3 := List.map_congr_left grouping.three
  rw [List.length_flatten, lengths, List.map_const', List.sum_replicate_nat, Nat.mul_mod_left]

/-- The first group is written as it is, and a comma behind it if there is more. -/
theorem grouped_append (some : first ≠ []) (few : first.length ≤ 3) (whole : more.length % 3 = 0) :
    grouped (first ++ more) = first ++ if more = [] then [] else ',' :: grouped more := by
  induction first with
  | nil => exact absurd rfl some
  | cons digit rest ih =>
      rw [List.length_cons] at few
      cases rest with
      | nil =>
          rw [List.singleton_append, grouped]
          by_cases none : more = []
          · rw [if_pos none, none]
            rfl
          · rw [if_neg none, if_pos ⟨mt List.length_eq_zero_iff.1 none, whole⟩]
            rfl
      | cons next rest =>
          have between : (next :: rest ++ more).length % 3 ≠ 0 := by
            rw [List.length_append]
            rw [List.length_cons] at few ⊢
            omega
          rw [List.cons_append, grouped, if_neg fun comma => between comma.2,
            ih (List.cons_ne_nil _ _) (by omega)]
          rfl

/-- Digits that are cut into groups are written as these groups. -/
theorem grouped_flatten (grouping : Grouping first groups) :
    grouped (first ++ groups.flatten) = joined first groups := by
  induction groups generalizing first with
  | nil => rw [grouped_append grouping.some grouping.few rfl, joined, List.flatten_nil, if_pos rfl, List.flatMap_nil]
  | cons group groups ih =>
      obtain ⟨length, others⟩ := List.forall_mem_cons.1 grouping.three
      have nonempty : group ≠ [] := List.ne_nil_of_length_eq_add_one length
      have behind : Grouping group groups := ⟨nonempty, Nat.le_of_eq length, others⟩
      rw [grouped_append grouping.some grouping.few grouping.length_flatten, List.flatten_cons,
        if_neg (List.append_ne_nil_of_left_ne_nil nonempty _), ih behind]
      rfl

/-- Any digits can be cut into groups, from the end. -/
theorem exists_grouping (some : digits ≠ []) :
    ∃ first groups, Grouping first groups ∧ digits = first ++ groups.flatten := by
  induction length : digits.length using Nat.strongRecOn generalizing digits with
  | ind count ih =>
      by_cases few : digits.length ≤ 3
      · exact ⟨digits, [], ⟨some, few, List.forall_mem_nil _⟩, (List.append_nil _).symm⟩
      · have front : (digits.take (count - 3)).length = count - 3 := by
          rw [List.length_take]
          omega
        have nonempty : digits.take (count - 3) ≠ [] := List.ne_nil_of_length_pos (by omega)
        obtain ⟨first, groups, grouping, cut⟩ := ih (count - 3) (by omega) nonempty front
        refine ⟨first, groups ++ [digits.drop (count - 3)], ⟨grouping.some, grouping.few, ?_⟩, ?_⟩
        · intro group inside
          rcases List.mem_append.1 inside with early | last
          · exact grouping.three group early
          · rw [List.mem_singleton.1 last, List.length_drop]
            omega
        · rw [List.flatten_append, List.flatten_singleton, ← List.append_assoc, ← cut, List.take_append_drop]

theorem withoutCommas_of_digits (all : ∀ c ∈ digits, c.isDigit) : withoutCommas digits = digits := by
  refine List.filter_eq_self.2 fun c inside => decide_eq_true ?_
  rintro rfl
  exact absurd (all _ inside) (by decide)

/-- Without their commas the groups are the digits. -/
theorem withoutCommas_joined (all : ∀ c ∈ first ++ groups.flatten, c.isDigit) :
    withoutCommas (joined first groups) = first ++ groups.flatten := by
  obtain ⟨front, behind⟩ := List.forall_mem_append.1 all
  rw [joined, withoutCommas, List.filter_append, ← withoutCommas, withoutCommas_of_digits front]
  congr 1
  induction groups with
  | nil => rfl
  | cons group groups ih =>
      rw [List.flatten_cons] at all behind ⊢
      obtain ⟨here, others⟩ := List.forall_mem_append.1 behind
      have all' : ∀ c ∈ first ++ groups.flatten, c.isDigit := List.forall_mem_append.2 ⟨front, others⟩
      rw [List.flatMap_cons, List.cons_append, List.filter_cons_of_neg (by decide), List.filter_append,
        ih all' others, ← withoutCommas, withoutCommas_of_digits here]

/-! ## Decimals -/

/-- The digits of a number, with no zero in front that it could do without. -/
structure Decimal (n : Nat) (digits : List Char) : Prop where
  numeric : ∀ c ∈ digits, c.isDigit
  spells : Nat.ofDigitChars 10 digits 0 = n
  shortest : ∃ first rest, digits = first :: rest ∧ (first = '0' → rest = [])

theorem decimal_toDigits (n : Nat) : Decimal n (Nat.toDigits 10 n) where
  numeric _ inside := Nat.isDigit_of_mem_toDigits (by decide) (by decide) inside
  spells := Nat.ofDigitChars_ten_toDigits
  shortest := by
    obtain ⟨first, rest, digits, alone⟩ := Json.exists_toDigits n
    exact ⟨first, rest, digits, fun zero => (alone zero).2⟩

theorem digitChar_of_isDigit {c : Char} (digit : c.isDigit) : Nat.digitChar (c.toNat - 48) = c := by
  obtain ⟨least, most⟩ := Json.toNat_of_isDigit digit
  apply Char.toNat_inj.1
  rw [Nat.toNat_digitChar_of_lt_ten (by omega)]
  omega

/-- Digits behind a positive number go on with its decimal. -/
theorem toDigits_append (positive : 0 < n) (all : ∀ c ∈ digits, c.isDigit) :
    Nat.toDigits 10 n ++ digits = Nat.toDigits 10 (Nat.ofDigitChars 10 digits n) := by
  induction digits generalizing n with
  | nil => rw [List.append_nil, Nat.ofDigitChars_nil]
  | cons c digits ih =>
      obtain ⟨digit, others⟩ := List.forall_mem_cons.1 all
      obtain ⟨least, most⟩ := Json.toNat_of_isDigit digit
      have small : c.toNat - 48 < 10 := by omega
      have next : Nat.toDigits 10 n ++ [c] = Nat.toDigits 10 (10 * n + (c.toNat - 48)) := by
        rw [← Nat.toDigits_append_toDigits (by decide) positive small, Nat.toDigits_of_lt_base small,
          digitChar_of_isDigit digit]
      rw [List.append_cons, next, ih (by omega) others, Nat.ofDigitChars_cons]
      rfl

/-- A number has one decimal only. -/
theorem Decimal.eq_toDigits (decimal : Decimal n digits) : digits = Nat.toDigits 10 n := by
  obtain ⟨first, rest, rfl, alone⟩ := decimal.shortest
  obtain ⟨digit, others⟩ := List.forall_mem_cons.1 decimal.numeric
  obtain ⟨least, most⟩ := Json.toNat_of_isDigit digit
  have small : first.toNat - 48 < 10 := by omega
  have one : Nat.toDigits 10 (first.toNat - 48) = [first] := by
    rw [Nat.toDigits_of_lt_base small, digitChar_of_isDigit digit]
  have spells : Nat.ofDigitChars 10 rest (first.toNat - 48) = n := by
    have whole := decimal.spells
    rw [Nat.ofDigitChars_cons, Nat.mul_zero, Nat.zero_add] at whole
    exact whole
  by_cases zero : first = '0'
  · obtain rfl := alone zero
    rw [← spells, Nat.ofDigitChars_nil, one]
  · have positive : 0 < first.toNat - 48 := by
      have other : first.toNat ≠ 48 := fun same => zero (Char.toNat_inj.1 same)
      omega
    rw [← spells, ← toDigits_append positive others, one]
    rfl

/-! ## Counts -/

theorem InGroups.eq_grouped (inGroups : InGroups text) : text = grouped (withoutCommas text) := by
  obtain ⟨first, groups, grouping, all, rfl⟩ := inGroups
  rw [withoutCommas_joined all, grouped_flatten grouping]

/-- Digits are written in groups, and nothing but commas is added to them. -/
theorem inGroups_grouped (some : digits ≠ []) (all : ∀ c ∈ digits, c.isDigit) :
    InGroups (grouped digits) ∧ withoutCommas (grouped digits) = digits := by
  obtain ⟨first, groups, grouping, rfl⟩ := exists_grouping some
  rw [grouped_flatten grouping]
  exact ⟨⟨first, groups, grouping, all, rfl⟩, withoutCommas_joined all⟩

theorem toList_thousands (n : Nat) : (thousands n).toList = grouped (Nat.toDigits 10 n) :=
  String.toList_ofList

/-- The text of a number is its decimal in groups: no other text is in groups and has the number's decimal without
the commas. So two numbers never have one text, and what is left without the commas is read as the number. -/
theorem thousands_in_groups (n : Nat) :
    InGroups (thousands n).toList ∧ Decimal n (withoutCommas (thousands n).toList) ∧
      String.ofList (withoutCommas (thousands n).toList) = toString n ∧
      (String.ofList (withoutCommas (thousands n).toList)).toNat? = some n ∧
      (∀ text, text = (thousands n).toList ↔ InGroups text ∧ Decimal n (withoutCommas text)) ∧
      Function.Injective thousands := by
  have written (n : Nat) : InGroups (thousands n).toList ∧
      withoutCommas (thousands n).toList = Nat.toDigits 10 n := by
    rw [toList_thousands]
    exact inGroups_grouped Nat.toDigits_ne_nil (decimal_toDigits n).numeric
  have decimal : Decimal n (withoutCommas (thousands n).toList) := by
    rw [(written n).2]
    exact decimal_toDigits n
  have same : String.ofList (withoutCommas (thousands n).toList) = toString n := by
    rw [(written n).2, Nat.toString_eq_ofList_toDigits]
  refine ⟨(written n).1, decimal, same, ?_, ?_, ?_⟩
  · rw [same]
    exact Nat.toNat?_repr n
  · intro text
    constructor
    · rintro rfl
      exact ⟨(written n).1, decimal⟩
    · rintro ⟨inGroups, spelled⟩
      rw [inGroups.eq_grouped, spelled.eq_toDigits, toList_thousands]
  · intro count other equal
    have digits : Nat.toDigits 10 count = Nat.toDigits 10 other := by
      rw [← (written count).2, ← (written other).2, equal]
    calc
      count = Nat.ofDigitChars 10 (Nat.toDigits 10 count) 0 := Nat.ofDigitChars_ten_toDigits.symm
      _ = Nat.ofDigitChars 10 (Nat.toDigits 10 other) 0 := by rw [digits]
      _ = other := Nat.ofDigitChars_ten_toDigits

end EventFeed.Text
