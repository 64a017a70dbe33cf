import EventFeed.Text.Utf8
import Mathlib.Algebra.Group.Nat.Defs

/-!
# Texts come back

The bytes of a text are UTF-8, and they spell that text and no other one. A text that bytes spell takes no more bytes
than these.
-/

namespace EventFeed.Utf8

/-! ## First bytes -/

theorem lead_of_one {v : Nat} (small : v < 0x80) : lead (UInt8.ofNat v) = .single (Char.ofNat v) := by
  have all : ∀ v < 0x80, lead (UInt8.ofNat v) = .single (Char.ofNat v) := by decide +kernel
  exact all v small

theorem lead_of_two {high : Nat} (least : 2 ≤ high) (most : high < 32) :
    lead (UInt8.ofNat (0xC0 + high)) = .first (.inside 0 0x80 0xBF high) := by
  have all : ∀ high < 32, 2 ≤ high →
      lead (UInt8.ofNat (0xC0 + high)) = .first (.inside 0 0x80 0xBF high) := by decide +kernel
  exact all high most least

/-- The second of three bytes is bounded more closely when the first one is the least, and when the
character would be one half of a pair. -/
theorem lead_of_three {high : Nat} (most : high < 16) :
    lead (UInt8.ofNat (0xE0 + high)) =
      .first (.inside 1 (if high = 0 then 0xA0 else 0x80) (if high = 13 then 0x9F else 0xBF) high) := by
  have all : ∀ high < 16, lead (UInt8.ofNat (0xE0 + high)) =
      .first (.inside 1 (if high = 0 then 0xA0 else 0x80) (if high = 13 then 0x9F else 0xBF) high) := by
    decide +kernel
  exact all high most

/-- The second of four bytes is bounded more closely when the first one is the least or the greatest. -/
theorem lead_of_four {high : Nat} (most : high < 5) :
    lead (UInt8.ofNat (0xF0 + high)) =
      .first (.inside 2 (if high = 0 then 0x90 else 0x80) (if high = 4 then 0x8F else 0xBF) high) := by
  have all : ∀ high < 5, lead (UInt8.ofNat (0xF0 + high)) =
      .first (.inside 2 (if high = 0 then 0x90 else 0x80) (if high = 4 then 0x8F else 0xBF) high) := by
    decide +kernel
  exact all high most

/-! ## Later bytes -/

theorem toNat_later {low : Nat} (small : low < 64) : (UInt8.ofNat (0x80 + low)).toNat = 0x80 + low := by
  rw [UInt8.toNat_ofNat']
  omega

theorem later_le {low : Nat} (small : low < 64) {most : UInt8} (bounded : 0x80 + low ≤ most.toNat) :
    UInt8.ofNat (0x80 + low) ≤ most := by
  rw [UInt8.le_iff_toNat_le, toNat_later small]
  exact bounded

theorem le_later {low : Nat} (small : low < 64) {least : UInt8} (bounded : least.toNat ≤ 0x80 + low) :
    least ≤ UInt8.ofNat (0x80 + low) := by
  rw [UInt8.le_iff_toNat_le, toNat_later small]
  exact bounded

/-- The last byte of a character. -/
theorem decodeFrom_last {low : Nat} {least most : UInt8} (code : Nat) (rest : List UInt8) (small : low < 64)
    (above : least.toNat ≤ 0x80 + low) (below : 0x80 + low ≤ most.toNat) :
    decodeFrom (.inside 0 least most code) (UInt8.ofNat (0x80 + low) :: rest) =
      (decodeFrom .start rest).map (Char.ofNat (code * 64 + low) :: ·) := by
  rw [decodeFrom, if_pos ⟨le_later small above, later_le small below⟩, toNat_later small,
    Nat.add_sub_cancel_left]

/-- A byte in the middle of a character. -/
theorem decodeFrom_later {owed low : Nat} {least most : UInt8} (code : Nat) (rest : List UInt8)
    (small : low < 64) (above : least.toNat ≤ 0x80 + low) (below : 0x80 + low ≤ most.toNat) :
    decodeFrom (.inside (owed + 1) least most code) (UInt8.ofNat (0x80 + low) :: rest) =
      decodeFrom (.inside owed 0x80 0xBF (code * 64 + low)) rest := by
  rw [decodeFrom, if_pos ⟨le_later small above, later_le small below⟩, toNat_later small,
    Nat.add_sub_cancel_left]

theorem toNat_least_le (low : Nat) : (0x80 : UInt8).toNat ≤ 0x80 + low :=
  Nat.le_add_right 0x80 low

theorem le_toNat_most {low : Nat} (small : low < 64) : 0x80 + low ≤ (0xBF : UInt8).toNat := by
  have bound : (0xBF : UInt8).toNat = 0xBF := rfl
  omega

/-! ## Characters -/

theorem decodeFrom_two {c : Char} (rest : List UInt8) (least : 0x80 ≤ c.toNat) (most : c.toNat < 0x800) :
    decodeFrom .start (UInt8.ofNat (0xC0 + c.toNat / 64) :: UInt8.ofNat (0x80 + c.toNat % 64) :: rest) =
      (decodeFrom .start rest).map (c :: ·) := by
  have small : c.toNat % 64 < 64 := by omega
  have whole : c.toNat / 64 * 64 + c.toNat % 64 = c.toNat := by omega
  rw [decodeFrom, lead_of_two (by omega) (by omega)]
  dsimp only
  rw [decodeFrom_last _ _ small (toNat_least_le _) (le_toNat_most small), whole, Char.ofNat_toNat]

theorem decodeFrom_three {c : Char} (rest : List UInt8) (least : 0x800 ≤ c.toNat)
    (most : c.toNat < 0x10000) :
    decodeFrom .start (UInt8.ofNat (0xE0 + c.toNat / 4096) :: UInt8.ofNat (0x80 + c.toNat / 64 % 64) ::
        UInt8.ofNat (0x80 + c.toNat % 64) :: rest) =
      (decodeFrom .start rest).map (c :: ·) := by
  have valid : c.toNat < 0xD800 ∨ 0xDFFF < c.toNat ∧ c.toNat < 0x110000 := c.valid
  have middle : c.toNat / 64 % 64 < 64 := by omega
  have small : c.toNat % 64 < 64 := by omega
  have whole : (c.toNat / 4096 * 64 + c.toNat / 64 % 64) * 64 + c.toNat % 64 = c.toNat := by omega
  have above : (if c.toNat / 4096 = 0 then (0xA0 : UInt8) else 0x80).toNat ≤ 0x80 + c.toNat / 64 % 64 := by
    split
    · have bound : (0xA0 : UInt8).toNat = 0xA0 := rfl
      omega
    · exact toNat_least_le _
  have below : 0x80 + c.toNat / 64 % 64 ≤ (if c.toNat / 4096 = 13 then (0x9F : UInt8) else 0xBF).toNat := by
    split
    · have bound : (0x9F : UInt8).toNat = 0x9F := rfl
      omega
    · exact le_toNat_most middle
  rw [decodeFrom, lead_of_three (by omega)]
  dsimp only
  rw [decodeFrom_later _ _ middle above below,
    decodeFrom_last _ _ small (toNat_least_le _) (le_toNat_most small), whole, Char.ofNat_toNat]

theorem decodeFrom_four {c : Char} (rest : List UInt8) (least : 0x10000 ≤ c.toNat) :
    decodeFrom .start (UInt8.ofNat (0xF0 + c.toNat / 262144) :: UInt8.ofNat (0x80 + c.toNat / 4096 % 64) ::
        UInt8.ofNat (0x80 + c.toNat / 64 % 64) :: UInt8.ofNat (0x80 + c.toNat % 64) :: rest) =
      (decodeFrom .start rest).map (c :: ·) := by
  have valid : c.toNat < 0xD800 ∨ 0xDFFF < c.toNat ∧ c.toNat < 0x110000 := c.valid
  have second : c.toNat / 4096 % 64 < 64 := by omega
  have third : c.toNat / 64 % 64 < 64 := by omega
  have small : c.toNat % 64 < 64 := by omega
  have whole : ((c.toNat / 262144 * 64 + c.toNat / 4096 % 64) * 64 + c.toNat / 64 % 64) * 64 +
      c.toNat % 64 = c.toNat := by omega
  have above : (if c.toNat / 262144 = 0 then (0x90 : UInt8) else 0x80).toNat ≤
      0x80 + c.toNat / 4096 % 64 := by
    split
    · have bound : (0x90 : UInt8).toNat = 0x90 := rfl
      omega
    · exact toNat_least_le _
  have below : 0x80 + c.toNat / 4096 % 64 ≤
      (if c.toNat / 262144 = 4 then (0x8F : UInt8) else 0xBF).toNat := by
    split
    · have bound : (0x8F : UInt8).toNat = 0x8F := rfl
      omega
    · exact le_toNat_most second
  rw [decodeFrom, lead_of_four (by omega)]
  dsimp only
  rw [decodeFrom_later _ _ second above below,
    decodeFrom_later _ _ third (toNat_least_le _) (le_toNat_most third),
    decodeFrom_last _ _ small (toNat_least_le _) (le_toNat_most small), whole, Char.ofNat_toNat]

/-- A decoder between characters reads one character from its bytes. -/
theorem decodeFrom_encodeChar (c : Char) (rest : List UInt8) :
    decodeFrom .start (encodeChar c ++ rest) = (decodeFrom .start rest).map (c :: ·) := by
  unfold encodeChar
  dsimp only
  split
  · rename_i one
    rw [List.singleton_append, decodeFrom, lead_of_one one, Char.ofNat_toNat]
  · rename_i two
    split
    · rename_i bounded
      exact decodeFrom_two rest (Nat.le_of_not_lt two) bounded
    · rename_i three
      split
      · rename_i bounded
        exact decodeFrom_three rest (Nat.le_of_not_lt three) bounded
      · rename_i four
        exact decodeFrom_four rest (Nat.le_of_not_lt four)

/-- The bytes of a text spell the text. -/
theorem decode?_encode (text : List Char) : decode? (encode text) = some text := by
  induction text with
  | nil => rfl
  | cons c text ih =>
      rw [decode?] at ih ⊢
      rw [encode, List.flatMap_cons, decodeFrom_encodeChar, ← encode, ih, Option.map_some]

theorem toString?_encode (text : String) : toString? (encode text.toList) = some text := by
  rw [toString?, decode?_encode, Option.map_some, String.ofList_toList]

/-! ## Bytes of a text -/

theorem encode_append (first second : List Char) : encode (first ++ second) = encode first ++ encode second :=
  List.flatMap_append

theorem encode_cons (c : Char) (text : List Char) : encode (c :: text) = encodeChar c ++ encode text :=
  List.flatMap_cons

theorem encodeChar_of_lt {c : Char} (small : c.toNat < 0x80) : encodeChar c = [UInt8.ofNat c.toNat] :=
  if_pos small

theorem encodeChar_ne_nil (c : Char) : encodeChar c ≠ [] := by
  unfold encodeChar
  dsimp only
  split
  · exact List.cons_ne_nil _ _
  split
  · exact List.cons_ne_nil _ _
  split
  · exact List.cons_ne_nil _ _
  · exact List.cons_ne_nil _ _

/-- Only ASCII characters have bytes below 128. -/
theorem le_of_mem_encodeChar {c : Char} (large : 0x80 ≤ c.toNat) {b : UInt8} (inside : b ∈ encodeChar c) :
    0x80 ≤ b.toNat := by
  have valid : c.toNat < 0xD800 ∨ 0xDFFF < c.toNat ∧ c.toNat < 0x110000 := c.valid
  have later (low : Nat) : 0x80 ≤ (UInt8.ofNat (0x80 + low % 64)).toNat := by
    rw [toNat_later (by omega)]
    omega
  have first {base high : Nat} (least : 0x80 ≤ base) (most : base + high < 256) :
      0x80 ≤ (UInt8.ofNat (base + high)).toNat := by
    rw [UInt8.toNat_ofNat']
    omega
  unfold encodeChar at inside
  dsimp only at inside
  split at inside
  · omega
  · split at inside
    · simp only [List.mem_cons, List.not_mem_nil, or_false] at inside
      rcases inside with rfl | rfl
      · exact first (by decide) (by omega)
      · exact later _
    · split at inside
      · simp only [List.mem_cons, List.not_mem_nil, or_false] at inside
        rcases inside with rfl | rfl | rfl
        · exact first (by decide) (by omega)
        · exact later _
        · exact later _
      · simp only [List.mem_cons, List.not_mem_nil, or_false] at inside
        rcases inside with rfl | rfl | rfl | rfl
        · exact first (by decide) (by omega)
        · exact later _
        · exact later _
        · exact later _

/-! ## The length of a text that was decoded -/

theorem length_encodeChar_le (c : Char) :
    (encodeChar c).length ≤ 4 ∧ (c.toNat < 0x10000 → (encodeChar c).length ≤ 3) ∧
      (c.toNat < 0x800 → (encodeChar c).length ≤ 2) ∧ (c.toNat < 0x80 → (encodeChar c).length ≤ 1) := by
  unfold encodeChar
  dsimp only
  split
  · simp
  · split
    · simp
      omega
    · split
      · simp
        omega
      · simp
        omega

theorem toNat_ofNat_le (code : Nat) : (Char.ofNat code).toNat ≤ code := by
  by_cases valid : code.isValidChar
  · rw [Char.ofNat, dif_pos valid]
    exact Nat.le_refl code
  · rw [Char.ofNat, dif_neg valid]
    exact Nat.zero_le code

/-- So many bytes of a character have been read, and whichever it will be, it takes no more than these and those
that are missing. -/
def Begun (begun : Nat) : State → Prop
  | .start => begun = 0
  | .inside owed _ high code =>
      high ≤ 0xBF ∧ ∀ whole, whole < (code + 1) * 64 ^ (owed + 1) →
        (encodeChar (Char.ofNat whole)).length ≤ begun + (owed + 1)

theorem begun_start : Begun 0 .start := rfl

theorem toNat_of_lead {b : UInt8} {c : Char} (leads : lead b = .single c) : c.toNat < 0x80 := by
  unfold lead at leads
  split at leads
  · rename_i small
    cases leads
    exact Nat.lt_of_le_of_lt (toNat_ofNat_le _) (UInt8.lt_iff_toNat_lt.1 small)
  · repeat' split at leads
    all_goals cases leads

theorem begun_of_lead {b : UInt8} {state : State} (leads : lead b = .first state) : Begun 1 state := by
  have two (code : Nat) (small : code < 32) : Begun 1 (.inside 0 0x80 0xBF code) := by
    refine ⟨by decide, fun whole below => ?_⟩
    have bound := toNat_ofNat_le whole
    exact (length_encodeChar_le _).2.2.1 (by omega)
  have three {low high : UInt8} (most : high ≤ 0xBF) (code : Nat) (small : code < 16) :
      Begun 1 (.inside 1 low high code) := by
    refine ⟨most, fun whole below => ?_⟩
    have bound := toNat_ofNat_le whole
    exact (length_encodeChar_le _).2.1 (by omega)
  have four {low high : UInt8} (most : high ≤ 0xBF) (code : Nat) : Begun 1 (.inside 2 low high code) :=
    ⟨most, fun whole _ => (length_encodeChar_le _).1⟩
  unfold lead at leads
  simp only [UInt8.lt_iff_toNat_lt] at leads
  split at leads
  · cases leads
  split at leads
  · cases leads
  split at leads
  · rename_i below
    cases leads
    exact two _ (by have : b.toNat < 224 := below; omega)
  split at leads
  · cases leads
    exact three (by decide) _ (by decide)
  split at leads
  · cases leads
    exact three (by decide) _ (by decide)
  split at leads
  · rename_i below
    cases leads
    exact three (by decide) _ (by have : b.toNat < 240 := below; omega)
  split at leads
  · cases leads
    exact four (by decide) _
  split at leads
  · cases leads
    exact four (by decide) _
  split at leads
  · cases leads
    exact four (by decide) _
  · cases leads

theorem Begun.later {begun owed code : Nat} {low high b : UInt8} (reading : Begun begun (.inside owed low high code))
    (bounded : b ≤ high) {whole : Nat} (within : whole < (code * 64 + (b.toNat - 0x80) + 1) * 64 ^ owed) :
    (encodeChar (Char.ofNat whole)).length ≤ begun + (owed + 1) := by
  refine reading.2 whole (Nat.lt_of_lt_of_le within ?_)
  have last : b.toNat ≤ 0xBF := UInt8.le_iff_toNat_le.1 (UInt8.le_trans bounded reading.1)
  rw [Nat.pow_succ', ← Nat.mul_assoc]
  exact Nat.mul_le_mul_right _ (by omega)

/-- A text that was decoded has no more bytes than it was decoded from. -/
theorem length_encode_le_of_decodeFrom {begun : Nat} {state : State} {bytes : List UInt8} {text : List Char}
    (reading : Begun begun state) (decoded : decodeFrom state bytes = some text) :
    (encode text).length ≤ begun + bytes.length := by
  induction bytes generalizing begun state text with
  | nil =>
      cases state with
      | start =>
          cases decoded
          exact Nat.zero_le _
      | inside => cases decoded
  | cons b bytes ih =>
      cases state with
      | start =>
          rw [decodeFrom] at decoded
          cases leads : lead b with
          | single c =>
              rw [leads] at decoded
              obtain ⟨others, found, rfl⟩ := Option.map_eq_some_iff.1 decoded
              have behind := ih begun_start found
              have here := (length_encodeChar_le c).2.2.2 (toNat_of_lead leads)
              rw [encode_cons, List.length_append, List.length_cons]
              omega
          | first state =>
              rw [leads] at decoded
              have behind := ih (begun_of_lead leads) decoded
              rw [List.length_cons]
              omega
          | never =>
              rw [leads] at decoded
              cases decoded
      | inside owed low high code =>
          rw [decodeFrom] at decoded
          split at decoded
          · rename_i bounds
            cases owed with
            | zero =>
                obtain ⟨others, found, rfl⟩ := Option.map_eq_some_iff.1 decoded
                have here := reading.later bounds.2
                  (Nat.lt_of_lt_of_eq (Nat.lt_succ_self _) (Nat.mul_one _).symm)
                have behind := ih begun_start found
                rw [encode_cons, List.length_append, List.length_cons]
                omega
            | succ owed =>
                have onward : Begun (begun + 1) (.inside owed 0x80 0xBF (code * 64 + (b.toNat - 0x80))) := by
                  refine ⟨by decide, fun whole below => ?_⟩
                  have here := reading.later bounds.2 below
                  omega
                have behind := ih onward decoded
                rw [List.length_cons]
                omega
          · cases decoded

theorem length_ofString_le {bytes : List UInt8} {text : String} (decoded : toString? bytes = some text) :
    (ofString text).length ≤ bytes.length := by
  obtain ⟨chars, found, rfl⟩ := Option.map_eq_some_iff.1 decoded
  rw [ofString, String.toList_ofList]
  exact Nat.le_trans (length_encode_le_of_decodeFrom begun_start found) (Nat.le_of_eq (Nat.zero_add _))

end EventFeed.Utf8
