import EventFeed.Proofs.Text.Utf8
import EventFeed.Url.Host
import Mathlib.Tactic.SplitIfs

/-!
# No name has a colon

What a server's name is read from goes through escapes, bytes, and the normal form of its characters, and a
colon comes through all of this as it is. Labels refuse it, so a text with a colon is a host only when it is
an address in brackets.
-/

namespace EventFeed

/-! ## Escapes and bytes -/

namespace Percent

/-- Whatever is neither the sign of an escape nor a digit of one stays among the bytes. -/
theorem encodeChar_subset_decode {text : List Char} {c : Char} (noSign : c ≠ '%')
    (noDigit : hexValue? c = none) (present : c ∈ text) : Utf8.encodeChar c ⊆ decode text := by
  fun_induction decode text with
  | case1 high low rest h l highDigit lowDigit ih =>
      have inRest : c ∈ rest := by
        simp only [List.mem_cons] at present
        rcases present with rfl | rfl | rfl | inRest
        · exact absurd rfl noSign
        · rw [noDigit] at lowDigit
          cases lowDigit
        · rw [noDigit] at highDigit
          cases highDigit
        · exact inRest
      exact List.subset_cons_of_subset _ (ih inRest)
  | case2 high low rest noEscape ih =>
      rcases List.mem_cons.1 present with rfl | inRest
      · exact absurd rfl noSign
      · exact List.subset_cons_of_subset _ (ih inRest)
  | case3 first rest other ih =>
      rcases List.mem_cons.1 present with rfl | inRest
      · exact List.subset_append_left _ _
      · exact List.subset_append_of_subset_right _ (ih inRest)
  | case4 => cases present

end Percent

namespace Utf8

/-- Whether the bytes that can come next are none of ASCII, unless a character begins. -/
def State.isAbove : State → Bool
  | .start => true
  | .inside _ low _ _ => 0x80 ≤ low

theorem isAbove_of_lead {b : UInt8} {state : State} (first : lead b = .first state) :
    state.isAbove = true := by
  unfold lead at first
  split_ifs at first <;>
    · cases first
      rfl

/-- A byte of ASCII stands for its character, wherever a reading succeeds. -/
theorem mem_of_decodeFrom {state : State} {bytes : List UInt8} {text : List Char} {v : Nat} (ascii : v < 0x80)
    (above : state.isAbove = true) (read : decodeFrom state bytes = some text)
    (present : UInt8.ofNat v ∈ bytes) : Char.ofNat v ∈ text := by
  have notBetween {low high b : UInt8} (least : 0x80 ≤ low) (between : low ≤ b ∧ b ≤ high) :
      UInt8.ofNat v ≠ b := by
    rintro rfl
    have atLeast := UInt8.le_iff_toNat_le.1 (UInt8.le_trans least between.1)
    rw [UInt8.toNat_ofNat', Nat.mod_eq_of_lt (by omega)] at atLeast
    exact absurd atLeast (Nat.not_le_of_lt ascii)
  fun_induction decodeFrom state bytes generalizing text with
  | case1 => cases present
  | case2 => cases present
  | case3 b rest c single ih =>
      obtain ⟨later, found, rfl⟩ := Option.map_eq_some_iff.1 read
      rcases List.mem_cons.1 present with rfl | inRest
      · rw [lead_of_one ascii] at single
        cases single
        exact List.mem_cons_self
      · exact List.mem_cons_of_mem _ (ih rfl found inRest)
  | case4 b rest state first ih =>
      rcases List.mem_cons.1 present with rfl | inRest
      · rw [lead_of_one ascii] at first
        cases first
      · exact ih (isAbove_of_lead first) read inRest
  | case5 b rest never => cases read
  | case6 =>
      rename_i between _ ih
      obtain ⟨later, found, rfl⟩ := Option.map_eq_some_iff.1 read
      rcases List.mem_cons.1 present with same | inRest
      · exact absurd same (notBetween (of_decide_eq_true above) between)
      · exact List.mem_cons_of_mem _ (ih rfl found inRest)
  | case7 =>
      rename_i between _ _ ih
      rcases List.mem_cons.1 present with same | inRest
      · exact absurd same (notBetween (of_decide_eq_true above) between)
      · exact ih rfl read inRest
  | case8 => cases read

end Utf8

/-! ## Normal form -/

namespace Unicode

variable {v : Nat}

theorem composite?_eq_none {letter next : Nat} (below : letter < 0x3C ∨ next < 0x3C) :
    composite? letter next = none := by
  have outside : letter < 0x3C ∨ next < 0x300 := by omega
  rw [composite?, if_pos outside]

/-- What comes before the less-than sign stays, whatever is put together around it. -/
theorem mem_composedFrom (small : v < 0x3C) {letter : Nat} {marks rest : List Nat}
    (present : v = letter ∨ v ∈ marks ∨ v ∈ rest) : v ∈ composedFrom letter marks rest := by
  fun_induction composedFrom letter marks rest with
  | case1 letter marks =>
      rcases present with rfl | mark | none
      · exact List.mem_cons_self
      · exact List.mem_cons_of_mem _ (List.mem_reverse.2 mark)
      · cases none
  | case2 letter marks next rest whole together ih =>
      have found : composite? letter next = some whole := by
        split at together
        · cases together
        · exact together
      have neither : v ≠ letter ∧ v ≠ next := by
        constructor <;>
          · rintro rfl
            rw [composite?_eq_none (by omega)] at found
            cases found
      rcases present with same | mark | later
      · exact absurd same neither.1
      · exact ih (.inr (.inl mark))
      · rcases List.mem_cons.1 later with same | inRest
        · exact absurd same neither.2
        · exact ih (.inr (.inr inRest))
  | case3 letter marks next rest apart noMark ih =>
      rcases present with rfl | mark | later
      · exact List.mem_cons_self
      · exact List.mem_cons_of_mem _ (List.mem_append_left _ (List.mem_reverse.2 mark))
      · apply List.mem_cons_of_mem
        apply List.mem_append_right
        rcases List.mem_cons.1 later with same | inRest
        · exact ih (.inl same)
        · exact ih (.inr (.inr inRest))
  | case4 letter marks next rest apart mark ih =>
      rcases present with same | held | later
      · exact ih (.inl same)
      · exact ih (.inr (.inl (List.mem_cons_of_mem _ held)))
      · rcases List.mem_cons.1 later with rfl | inRest
        · exact ih (.inr (.inl List.mem_cons_self))
        · exact ih (.inr (.inr inRest))

theorem mem_normal (small : v < 0x3C) {text : List Nat} (present : v ∈ text) : v ∈ normal text := by
  have whole : parts v = [v] := if_pos (by omega)
  have apart : v ∈ text.flatMap parts := List.mem_flatMap.2 ⟨v, present, by rw [whole]; exact List.mem_singleton_self v⟩
  have placed : v ∈ arranged (text.flatMap parts) := (arranged_perm _).mem_iff.2 apart
  rw [normal]
  generalize arranged (text.flatMap parts) = points at placed
  cases points with
  | nil => cases placed
  | cons first rest =>
      rw [composed]
      rcases List.mem_cons.1 placed with same | later
      · exact mem_composedFrom small (.inl same)
      · exact mem_composedFrom small (.inr (.inr later))

end Unicode

/-! ## Labels -/

theorem exists_of_mapM {α β : Type} {f : α → Option β} {list : List α} {image : List β}
    (mapped : list.mapM f = some image) {x : α} (present : x ∈ list) : ∃ y ∈ image, f x = some y := by
  induction list generalizing image with
  | nil => cases present
  | cons first rest ih =>
      simp only [List.mapM_cons, Option.pure_def, Option.bind_eq_bind, Option.bind_eq_some_iff] at mapped
      obtain ⟨y, here, others, there, same⟩ := mapped
      cases same
      rcases List.mem_cons.1 present with rfl | later
      · exact ⟨y, List.mem_cons_self, here⟩
      · obtain ⟨z, inside, found⟩ := ih there later
        exact ⟨z, List.mem_cons_of_mem _ inside, found⟩

/-- What is no mark stands in one of the pieces between marks. -/
theorem Form.exists_piece {mark c : Char} (other : c ≠ mark) {text : List Char} (present : c ∈ text) :
    ∃ piece ∈ pieces mark text, c ∈ piece := by
  induction text with
  | nil => cases present
  | cons first rest ih =>
      rw [pieces]
      split
      · rename_i ends
        rcases List.mem_cons.1 present with rfl | later
        · exact absurd ends other
        · obtain ⟨piece, inside, held⟩ := ih later
          exact ⟨piece, List.mem_cons_of_mem _ inside, held⟩
      · split
        · rename_i none
          rcases List.mem_cons.1 present with rfl | later
          · exact ⟨_, List.mem_cons_self, List.mem_cons_self⟩
          · obtain ⟨piece, inside, _⟩ := ih later
            rw [none] at inside
            cases inside
        · rename_i piece others found
          rw [found] at ih
          rcases List.mem_cons.1 present with rfl | later
          · exact ⟨_, List.mem_cons_self, List.mem_cons_self⟩
          · obtain ⟨held, inside, there⟩ := ih later
            rcases List.mem_cons.1 inside with rfl | behind
            · exact ⟨_, List.mem_cons_self, List.mem_cons_of_mem _ there⟩
            · exact ⟨held, List.mem_cons_of_mem _ behind, there⟩

theorem Label.ofNormal?_eq_none {label : List Char} (colon : ':' ∈ label) : ofNormal? label = none :=
  if_pos (List.any_eq_true.2 ⟨':', colon, rfl⟩)

namespace Domain

/-- A colon is left as it is. -/
theorem colon_mem_of_normal? {name normal : List Char} (formed : normal? name = some normal)
    (colon : ':' ∈ name) : ':' ∈ normal := by
  unfold normal? at formed
  split at formed
  · cases formed
    exact List.mem_map.2 ⟨':', colon, rfl⟩
  · obtain ⟨points, mapped, rfl⟩ := Option.map_eq_some_iff.1 formed
    obtain ⟨taken, inside, kept⟩ := exists_of_mapM mapped colon
    have same : [0x3A] = taken := Option.some.inj kept
    have point : 0x3A ∈ points.flatten := List.mem_flatten.2 ⟨taken, inside, same ▸ List.mem_singleton_self _⟩
    exact List.mem_map.2 ⟨0x3A, Unicode.mem_normal (by decide) point, rfl⟩

theorem ascii?_eq_none {name : List Char} (colon : ':' ∈ name) : ascii? name = none := by
  unfold ascii?
  split
  · rfl
  · rename_i normal formed
    obtain ⟨label, inside, held⟩ := Form.exists_piece (by decide : ':' ≠ '.') (colon_mem_of_normal? formed colon)
    split
    · rfl
    · rename_i labels named
      obtain ⟨_, _, found⟩ := exists_of_mapM named inside
      rw [Label.ofNormal?_eq_none held] at found
      cases found

theorem ofEscaped?_eq_none {text : List Char} (colon : ':' ∈ text) : ofEscaped? text = none := by
  unfold ofEscaped?
  split
  · rfl
  · rename_i name read
    have byte := Percent.encodeChar_subset_decode (by decide) rfl colon List.mem_cons_self
    exact ascii?_eq_none (Utf8.mem_of_decodeFrom (v := 0x3A) (by decide) rfl read byte)

end Domain

/-- A text with a colon is no host unless it ends with a bracket. -/
theorem Host.exists_fault {text : List Char} (colon : ':' ∈ text) (unclosed : text.getLast? ≠ some ']') :
    ∃ fault, ofText text = .error fault := by
  unfold ofText
  split
  · rename_i rest
    have notClosed : rest.getLast? ≠ some ']' := by
      cases rest with
      | nil => exact nofun
      | cons _ _ => exact unclosed
    rw [if_neg notClosed]
    exact ⟨_, rfl⟩
  · rw [Domain.ofEscaped?_eq_none colon]
    exact ⟨_, rfl⟩

end EventFeed
