import EventFeed.Proofs.Url.Segments
import EventFeed.Url.Form

/-!
# Forms come back

A form is decoded to the named values that it was made of, whatever they hold. The signs that divide a form
do not occur in an escaped text, and the plus sign occurs there for a space only.
-/

namespace EventFeed

/-! ## Texts without errors -/

namespace Utf8

/-- Bytes that are a text are read as that text with replacements as well: there is nothing to replace. -/
theorem decodeLossyFrom_of_decodeFrom {state : State} {bytes : List UInt8} {text : List Char}
    (read : decodeFrom state bytes = some text) : decodeLossyFrom state bytes = text := by
  fun_induction decodeFrom state bytes generalizing text with
  | case1 =>
      cases read
      rfl
  | case2 => cases read
  | case3 b rest c single ih =>
      obtain ⟨later, found, rfl⟩ := Option.map_eq_some_iff.1 read
      rw [decodeLossyFrom, single]
      exact congrArg (c :: ·) (ih found)
  | case4 b rest state first ih =>
      rw [decodeLossyFrom, first]
      exact ih read
  | case5 b rest never => cases read
  | case6 =>
      rename_i between _ ih
      obtain ⟨later, found, rfl⟩ := Option.map_eq_some_iff.1 read
      rw [decodeLossyFrom, if_pos between]
      exact congrArg (List.cons _) (ih found)
  | case7 =>
      rename_i between _ _ ih
      rw [decodeLossyFrom, if_pos between]
      exact ih read
  | case8 => cases read

theorem toStringLossy_encode (text : String) : toStringLossy (encode text.toList) = text := by
  rw [toStringLossy, decodeLossy, decodeLossyFrom_of_decodeFrom (decode?_encode text.toList),
    String.ofList_toList]

end Utf8

namespace Form

/-! ## Names and values -/

/-- What an escaped text is made of: what stands for itself, the sign of escapes, and the plus sign. -/
theorem mem_escape {text : String} {c : Char} (present : c ∈ escape text) :
    Percent.keepsForm c = true ∨ c = '%' ∨ c = '+' := by
  obtain ⟨source, _, within⟩ := List.mem_flatMap.1 present
  unfold escapeChar at within
  split at within
  · exact .inr (.inr (List.mem_singleton.1 within))
  · have single : c ∈ Percent.escape Percent.keepsForm [source] := by
      simpa [Percent.escape] using within
    rcases Percent.mem_escape single with kept | sign | digit
    · exact .inl kept
    · exact .inr (.inl sign)
    · exact .inl (by simp [Percent.keepsForm, digit])

theorem notMem_escape {mark : Char} (divides : mark = '&' ∨ mark = '=') (text : String) :
    mark ∉ escape text := by
  intro present
  rcases divides with rfl | rfl
  · exact absurd (mem_escape present) (by decide)
  · exact absurd (mem_escape present) (by decide)

/-- A plus sign as what it stands for. -/
def spaced (c : Char) : Char :=
  if c = '+' then ' ' else c

/-- What stands for a character other than the space has no plus sign. -/
theorem map_spaced_escapeChar (c : Char) :
    (Percent.escapeChar Percent.keepsForm c).map spaced = Percent.escapeChar Percent.keepsForm c := by
  refine (List.map_congr_left fun d present => ?_).trans (List.map_id _)
  have single : d ∈ Percent.escape Percent.keepsForm [c] := by
    simpa [Percent.escape] using present
  have other : d ≠ '+' := by
    rintro rfl
    exact absurd (Percent.mem_escape single) (by decide)
  exact if_neg other

theorem decode_escapeChar (c : Char) (rest : List Char) :
    Percent.decode ((escapeChar c).map spaced ++ rest) = Utf8.encodeChar c ++ Percent.decode rest := by
  unfold escapeChar
  split
  · rename_i space
    rw [space]
    exact Percent.decode_cons (by decide) rest
  · rw [map_spaced_escapeChar]
    exact Percent.decode_escapeChar rfl c rest

theorem decode_escape (text : List Char) :
    Percent.decode ((text.flatMap escapeChar).map spaced) = Utf8.encode text := by
  induction text with
  | nil => rfl
  | cons c text ih => rw [List.flatMap_cons, List.map_append, decode_escapeChar, ih, Utf8.encode_cons]

theorem unescape_escape (text : String) : unescape (escape text) = text := by
  have bytes := decode_escape text.toList
  rw [unescape, escape]
  change Utf8.toStringLossy (Percent.decode ((text.toList.flatMap escapeChar).map spaced)) = text
  rw [bytes, Utf8.toStringLossy_encode]

theorem pairOf_pairChars (pair : String × String) : pairOf (pairChars pair) = pair := by
  have early : ∀ c ∈ escape pair.1, decide (c ≠ '=') = true := by
    intro c present
    refine decide_eq_true ?_
    rintro rfl
    exact notMem_escape (.inr rfl) pair.1 present
  rw [pairOf, pairChars, List.takeWhile_append_of_pos early, List.dropWhile_append_of_pos early]
  simp [unescape_escape]

/-! ## Pieces -/

theorem pieces_of_notMem {mark : Char} {text : List Char} (absent : mark ∉ text) :
    pieces mark text = [text] := by
  induction text with
  | nil => rfl
  | cons first rest ih =>
      obtain ⟨other, later⟩ := not_or.1 (mt List.mem_cons.2 absent)
      rw [pieces, if_neg (Ne.symm other), ih later]

/-- A mark ends the piece before it. -/
theorem pieces_append_mark {mark : Char} {text : List Char} (absent : mark ∉ text) (behind : List Char) :
    pieces mark (text ++ mark :: behind) = text :: pieces mark behind := by
  induction text with
  | nil => rw [List.nil_append, pieces, if_pos rfl]
  | cons first rest ih =>
      obtain ⟨other, later⟩ := not_or.1 (mt List.mem_cons.2 absent)
      rw [List.cons_append, pieces, if_neg (Ne.symm other), ih later]

/-- What has no mark goes to the end of the last piece. -/
theorem pieces_append {mark : Char} {behind : List Char} (absent : mark ∉ behind) (text : List Char) :
    ∃ front last, pieces mark (text ++ behind) = front ++ [last ++ behind] := by
  induction text with
  | nil => exact ⟨[], [], pieces_of_notMem absent⟩
  | cons first rest ih =>
      obtain ⟨front, last, found⟩ := ih
      rw [List.cons_append, pieces, found]
      split
      · exact ⟨[] :: front, last, rfl⟩
      · cases front with
        | nil => exact ⟨[], first :: last, rfl⟩
        | cons piece others => exact ⟨(first :: piece) :: others, last, rfl⟩

/-! ## Forms -/

theorem notMem_pairChars (pair : String × String) : '&' ∉ pairChars pair := by
  rw [pairChars, List.mem_append, List.mem_cons]
  rintro (name | sign | value)
  · exact notMem_escape (.inl rfl) pair.1 name
  · exact absurd sign (by decide)
  · exact notMem_escape (.inl rfl) pair.2 value

theorem pairChars_ne_nil (pair : String × String) : pairChars pair ≠ [] := by
  simp [pairChars]

/-- Named values behind another one. -/
theorem append_of_ne_nil {before : List Char} (begun : before ≠ []) (pairs : List (String × String)) :
    append before pairs = before ++ pairs.flatMap fun pair => '&' :: pairChars pair := by
  induction pairs generalizing before with
  | nil => simp [append]
  | cons pair rest ih =>
      rw [append, if_neg begun, ih (by simp [begun]), List.flatMap_cons, List.append_assoc]

theorem pieces_pairs (pair : String × String) (rest : List (String × String)) :
    pieces '&' (pairChars pair ++ rest.flatMap fun pair => '&' :: pairChars pair) =
      (pair :: rest).map pairChars := by
  induction rest generalizing pair with
  | nil => simp [pieces_of_notMem (notMem_pairChars pair)]
  | cons next rest ih =>
      rw [List.flatMap_cons, List.cons_append, pieces_append_mark (notMem_pairChars pair), ih next]
      rfl

theorem append_nil_cons (pair : String × String) (rest : List (String × String)) :
    append [] (pair :: rest) = pairChars pair ++ rest.flatMap fun pair => '&' :: pairChars pair := by
  rw [append, if_pos rfl, append_of_ne_nil (pairChars_ne_nil pair)]

/-- Only a form of nothing is empty. -/
theorem append_nil_eq_nil_iff (pairs : List (String × String)) : append [] pairs = [] ↔ pairs = [] := by
  cases pairs with
  | nil => exact iff_of_true rfl rfl
  | cons pair rest => simp [append_nil_cons, pairChars_ne_nil]

/-- Named values come back from their form, in their order. -/
theorem decode_encode (pairs : List (String × String)) : decode (encode pairs) = pairs := by
  cases pairs with
  | nil => rfl
  | cons pair rest =>
      have nonempty : ∀ piece ∈ (pair :: rest).map pairChars, decide (piece ≠ []) = true := by
        intro piece present
        obtain ⟨source, _, rfl⟩ := List.mem_map.1 present
        exact decide_eq_true (pairChars_ne_nil source)
      rw [decode, encode, String.toList_ofList, append_nil_cons, pieces_pairs,
        List.filter_eq_self.2 nonempty, List.map_map]
      exact (List.map_congr_left fun pair _ => pairOf_pairChars pair).trans (List.map_id _)

end Form

end EventFeed
