import EventFeed.Proofs.Json.RoundTrip
import EventFeed.Proofs.Json.Echoes

/-!
# Written documents are passed over

The skipper comes behind every document with whole numbers, wherever the document was written. What can keep a
document from being read back, its depth or the embedding key, does not matter to the skipper. All that is open
lies on one stack, so a value is passed over together with the brackets around it: `GoesOn` says where the skipper
goes on, and how much fuel it may have used until then.
-/

namespace EventFeed.Json

variable {value item : Json} {member : String × Json} {items : List Json} {members : List (String × Json)}
  {fuel fuel' cost more : Nat} {input rest tail between : List UInt8} {frame : Frame} {frames : List Frame}
  {skipped : Except Fault (List UInt8)}

/-! ## Strings -/

theorem skipString_unicode {code : Nat} (hex : readHex input = .ok (code, rest)) :
    skipString (fuel + 1) (0x5C :: 0x75 :: input) = skipString fuel rest := by
  conv => lhs; unfold skipString
  rw [if_neg (by decide), if_pos rfl]
  dsimp only
  rw [if_pos rfl, hex]

theorem skipString_letter {letter : UInt8} (other : letter ≠ 0x75) (known : (escapedChar? letter).isSome = true) :
    skipString (fuel + 1) (0x5C :: letter :: rest) = skipString fuel rest := by
  conv => lhs; unfold skipString
  rw [if_neg (by decide), if_pos rfl]
  dsimp only
  rw [if_neg other, if_pos known]

theorem skipString_plain {b : UInt8} (noQuote : b ≠ 0x22) (noBackslash : b ≠ 0x5C) (visible : ¬ b < 0x20) :
    skipString (fuel + 1) (b :: rest) = skipString fuel rest := by
  conv => lhs; unfold skipString
  rw [if_neg noQuote, if_neg noBackslash, if_neg visible]

/-- An escape is passed over in one round, or in two where a character is written as two escapes. So it is enough
if there is a round for every byte. -/
theorem skipString_escape {c : Char} {needed : Nat} (read : readEscape input = .ok (c, rest))
    (enough : input.length + 1 + needed ≤ fuel + rest.length) :
    ∃ left, needed ≤ left ∧ skipString fuel (0x5C :: input) = skipString left rest := by
  have shorter := length_of_readEscape read
  cases fuel with
  | zero => omega
  | succ fuel =>
      unfold readEscape at read
      split at read
      · cases read
      rename_i letter behind
      rw [List.length_cons] at enough shorter
      split at read
      · rename_i unicode
        rw [unicode]
        unfold readCodePoint at read
        split at read
        · cases read
        rename_i code after hex
        have digits := length_of_readHex hex
        rw [skipString_unicode hex]
        split at read
        · cases read
        split at read
        · obtain ⟨second, beyond, rfl, pair⟩ := readPair_rest read
          have others := length_of_readHex pair
          rw [List.length_cons, List.length_cons] at digits
          cases fuel with
          | zero => omega
          | succ fuel => exact ⟨fuel, by omega, skipString_unicode pair⟩
        · cases read
          exact ⟨fuel, by omega, rfl⟩
      · rename_i other
        split at read
        · rename_i c found
          cases read
          exact ⟨fuel, by omega, skipString_letter other (by rw [found]; rfl)⟩
        · cases read

theorem length_lt_of_scanString {seen bytes : List UInt8} (scanned : scanString fuel seen input = .ok (bytes, rest)) :
    rest.length < input.length := by
  induction fuel generalizing seen input with
  | zero => cases scanned
  | succ fuel ih =>
      cases input with
      | nil => cases scanned
      | cons b behind =>
          rw [scanString] at scanned
          rw [List.length_cons]
          split at scanned
          · cases scanned
            omega
          split at scanned
          · split at scanned
            · cases scanned
            · rename_i c after escape
              have stood := length_of_readEscape escape
              have later := ih scanned
              omega
          split at scanned
          · cases scanned
          · have later := ih scanned
            omega

/-- A string that is read is passed over, if there is a round for each of its bytes. -/
theorem skipString_of_scanned {seen bytes : List UInt8} (scanned : scanString fuel seen input = .ok (bytes, rest))
    (enough : input.length ≤ fuel' + rest.length) : skipString fuel' input = .ok rest := by
  induction fuel generalizing fuel' seen input with
  | zero => cases scanned
  | succ fuel ih =>
      have ended := length_lt_of_scanString scanned
      cases fuel' with
      | zero => omega
      | succ fuel' =>
          cases input with
          | nil => cases scanned
          | cons b behind =>
              rw [scanString] at scanned
              rw [List.length_cons] at enough
              split at scanned
              · rename_i quote
                cases scanned
                unfold skipString
                rw [if_pos quote]
              rename_i noQuote
              split at scanned
              · rename_i backslash
                split at scanned
                · cases scanned
                rename_i c after escape
                have later := length_lt_of_scanString scanned
                have needed : behind.length + 1 + (after.length - rest.length) ≤ fuel' + 1 + after.length := by
                  omega
                obtain ⟨left, enough', passed⟩ := skipString_escape escape needed
                rw [backslash, passed]
                exact ih scanned (by omega)
              rename_i noBackslash
              split at scanned
              · cases scanned
              rename_i visible
              rw [skipString_plain noQuote noBackslash visible]
              exact ih scanned (by omega)

/-- A string between quotes is passed over, whatever stands behind it. -/
theorem skipString_quoted (text : String) (tail : List UInt8) (enough : (Utf8.encode (quoted text)).length ≤ fuel) :
    ∃ behind, Utf8.encode (quoted text) ++ tail = 0x22 :: behind ∧ skipString fuel behind = .ok tail := by
  obtain ⟨behind, front, read⟩ := readString_quoted text tail enough
  obtain ⟨bytes, scanned, _⟩ := scanString_of_readString read
  have length := congrArg List.length front
  rw [List.length_append, List.length_cons] at length
  exact ⟨behind, front, skipString_of_scanned scanned (by omega)⟩

/-- A key is passed over with its colon. -/
theorem skipKey_quoted (key : String) (rest : List UInt8) (enough : (Utf8.encode (quoted key)).length ≤ fuel) :
    skipKey fuel (Utf8.encode (quoted key) ++ 0x3A :: rest) = .ok rest := by
  obtain ⟨behind, front, passed⟩ := skipString_quoted key (0x3A :: rest) enough
  have quote : skipBlanks (0x22 :: behind) = 0x22 :: behind := rfl
  rw [front, skipKey, quote]
  dsimp only
  rw [if_pos rfl, passed]
  rfl

/-! ## Where the skipper goes on -/

/-- The skipper goes on in front of the tail, with what is open there. It began with so much fuel, and has used no
more than the cost. -/
def GoesOn (cost fuel : Nat) (frames : List Frame) (tail : List UInt8) (skipped : Except Fault (List UInt8)) : Prop :=
  ∃ left, fuel ≤ left + cost ∧ skipped = skipMore left frames tail

/-- A value with whole numbers is passed over wherever it stands. -/
def PassedOver (value : Json) : Prop :=
  ∀ {fuel : Nat} {frames : List Frame} {tail : List UInt8}, 2 * value.bytes.length ≤ fuel → EndsNumber tail →
    GoesOn (2 * value.bytes.length) fuel frames tail (skipOpen fuel frames (value.bytes ++ tail))

def MoreItemsPassedOver (items : List Json) : Prop :=
  ∀ {fuel : Nat} {frames : List Frame} {tail : List UInt8}, 2 * ((moreItemBytes items).length + 1) ≤ fuel →
    GoesOn (2 * ((moreItemBytes items).length + 1)) fuel frames tail
      (skipMore fuel (.list :: frames) (moreItemBytes items ++ 0x5D :: tail))

def MoreMembersPassedOver (members : List (String × Json)) : Prop :=
  ∀ {fuel : Nat} {frames : List Frame} {tail : List UInt8}, 2 * ((moreMemberBytes members).length + 1) ≤ fuel →
    GoesOn (2 * ((moreMemberBytes members).length + 1)) fuel frames tail
      (skipMore fuel (.object :: frames) (moreMemberBytes members ++ 0x7D :: tail))

/-- A value is passed over in a frame, and then what stands behind it there. -/
theorem GoesOn.trans (first : GoesOn cost fuel (frame :: frames) between skipped)
    (others : ∀ {left}, fuel ≤ left + cost → GoesOn more left frames tail (skipMore left (frame :: frames) between)) :
    GoesOn (cost + more) fuel frames tail skipped := by
  obtain ⟨left, used, rfl⟩ := first
  obtain ⟨left', used', same⟩ := others used
  exact ⟨left', by omega, same⟩

theorem GoesOn.mono (goesOn : GoesOn cost fuel frames tail skipped) (enough : fuel' + cost ≤ fuel + more) :
    GoesOn more fuel' frames tail skipped := by
  obtain ⟨left, used, same⟩ := goesOn
  exact ⟨left, by omega, same⟩

theorem goesOn_closing (frame : Frame) :
    GoesOn 1 (fuel + 1) frames tail (skipMore (fuel + 1) (frame :: frames) (frame.closing :: tail)) := by
  refine ⟨fuel, Nat.le_refl _, ?_⟩
  cases frame <;> rfl

/-! ## Words, numbers and strings -/

/-- What holds no other values is passed over in one step. -/
theorem passedOver_scalar (scalar : ∀ {fuel : Nat} {tail : List UInt8}, value.bytes.length ≤ fuel →
      EndsNumber tail → ∃ b behind, value.bytes ++ tail = b :: behind ∧ isBlank b = false ∧ b ≠ 0x5B ∧ b ≠ 0x7B ∧
        skipScalar fuel (b :: behind) = .ok tail) : PassedOver value := by
  intro fuel frames tail enough ends
  have positive : 0 < value.bytes.length := by
    obtain ⟨b, behind, bytes, _⟩ := scalar (Nat.le_refl _) endsNumber_nil
    rw [← List.append_nil value.bytes, bytes]
    exact Nat.succ_pos _
  cases fuel with
  | zero => omega
  | succ fuel =>
      obtain ⟨b, behind, front, notBlank, noBracket, noBrace, passed⟩ :=
        scalar (show value.bytes.length ≤ fuel by omega) ends
      refine ⟨fuel, by omega, ?_⟩
      rw [front, skipOpen, skipBlanks_front notBlank]
      dsimp only
      rw [if_neg noBracket, if_neg noBrace, passed]

theorem passedOver_null : PassedOver null :=
  passedOver_scalar fun _ _ => ⟨_, _, rfl, by decide, by decide, by decide, rfl⟩

theorem passedOver_bool (value : Bool) : PassedOver (bool value) := by
  cases value with
  | true => exact passedOver_scalar fun _ _ => ⟨_, _, rfl, by decide, by decide, by decide, rfl⟩
  | false => exact passedOver_scalar fun _ _ => ⟨_, _, rfl, by decide, by decide, by decide, rfl⟩

theorem passedOver_number {number : Number} (whole : IsWhole number) : PassedOver (.number number) := by
  apply passedOver_scalar
  intro fuel tail _ ends
  rw [bytes, chars]
  rcases readNumber_numberChars whole ends with ⟨behind, front, read⟩ | ⟨first, behind, front, digit, read⟩
  · exact ⟨_, behind, front, by decide, by decide, by decide, skipNumber_of_readNumber read⟩
  · have other {b : UInt8} (noDigit : isDigit b = false) := ne_of_isDigit digit noDigit
    refine ⟨first, behind, front, isBlank_of_isDigit digit, other rfl, other rfl, ?_⟩
    rw [skipScalar, if_neg (other rfl), if_neg (other rfl), if_neg (other rfl), if_neg (other rfl), if_pos digit]
    exact skipNumber_of_readNumber read

theorem passedOver_string (text : String) : PassedOver (.string text) := by
  apply passedOver_scalar
  intro fuel tail enough _
  obtain ⟨behind, front, passed⟩ := skipString_quoted text tail enough
  exact ⟨_, behind, front, by decide, by decide, by decide, passed⟩

/-! ## Lists -/

theorem moreItemsPassedOver_nil : MoreItemsPassedOver [] := by
  intro fuel frames tail enough
  cases fuel with
  | zero => cases enough
  | succ fuel => exact (goesOn_closing .list).mono (by omega)

theorem moreItemsPassedOver_cons (first : PassedOver item) (others : MoreItemsPassedOver items) :
    MoreItemsPassedOver (item :: items) := by
  intro fuel frames tail enough
  have length := congrArg List.length (moreItemBytes_cons item items [])
  simp only [List.append_nil, List.length_cons, List.length_append] at length
  cases fuel with
  | zero => omega
  | succ fuel =>
      have comma (rest : List UInt8) :
          skipMore (fuel + 1) (.list :: frames) (0x2C :: rest) = skipOpen fuel (.list :: frames) rest := rfl
      rw [moreItemBytes_cons, comma]
      have passed : GoesOn (2 * item.bytes.length) fuel (.list :: frames) _ _ :=
        first (by omega) (endsNumber_moreItemBytes items tail)
      exact (passed.trans fun used => others (by omega)).mono (by omega)

theorem passedOver_array_nil : PassedOver (array []) := by
  intro fuel frames tail enough _
  have length : (array []).bytes.length = 2 := rfl
  match fuel with
  | 0 => omega
  | 1 => omega
  | fuel + 2 => exact ⟨fuel, by omega, rfl⟩

theorem passedOver_array_cons (whole : item.Whole) (first : PassedOver item) (others : MoreItemsPassedOver items) :
    PassedOver (array (item :: items)) := by
  intro fuel frames tail enough _
  obtain ⟨b, behind, front, notBlank, notEnd⟩ := exists_front whole
  have length := congrArg List.length (bytes_array_cons item items [])
  simp only [List.append_nil, List.length_cons, List.length_append, List.length_nil] at length
  match fuel with
  | 0 => omega
  | 1 => omega
  | fuel + 2 =>
      have opened : skipOpen (fuel + 2) frames
          (0x5B :: (item.bytes ++ (moreItemBytes items ++ 0x5D :: tail))) =
            skipOpen fuel (.list :: frames) (item.bytes ++ (moreItemBytes items ++ 0x5D :: tail)) := by
        have bracket (rest : List UInt8) :
            skipOpen (fuel + 2) frames (0x5B :: rest) = skipBody (fuel + 1) .list frames rest := rfl
        rw [bracket, front, List.cons_append, skipBody, skipBlanks_front notBlank]
        exact if_neg notEnd
      have passed : GoesOn (2 * item.bytes.length) fuel (.list :: frames) _ _ :=
        first (by omega) (endsNumber_moreItemBytes items tail)
      rw [bytes_array_cons, opened]
      exact (passed.trans fun used => others (by omega)).mono (by omega)

/-! ## Objects -/

theorem moreMembersPassedOver_nil : MoreMembersPassedOver [] := by
  intro fuel frames tail enough
  cases fuel with
  | zero => cases enough
  | succ fuel => exact (goesOn_closing .object).mono (by omega)

theorem skipMore_comma (labelled : skipKey fuel input = .ok rest) :
    skipMore (fuel + 1) (.object :: frames) (0x2C :: input) = skipOpen fuel (.object :: frames) rest := by
  have comma : skipBlanks (0x2C :: input) = 0x2C :: input := rfl
  unfold skipMore
  rw [comma]
  dsimp only
  rw [if_pos rfl, Frame.skipLabel, labelled]

theorem skipOpen_brace (labelled : skipKey fuel (0x22 :: input) = .ok rest) :
    skipOpen (fuel + 2) frames (0x7B :: 0x22 :: input) = skipOpen fuel (.object :: frames) rest := by
  have brace : skipOpen (fuel + 2) frames (0x7B :: 0x22 :: input) =
      skipBody (fuel + 1) .object frames (0x22 :: input) := rfl
  have quote : skipBlanks (0x22 :: input) = 0x22 :: input := rfl
  rw [brace, skipBody, quote]
  dsimp only
  rw [if_neg (by decide), Frame.skipLabel, labelled]

theorem moreMembersPassedOver_cons (first : PassedOver member.2) (others : MoreMembersPassedOver members) :
    MoreMembersPassedOver (member :: members) := by
  intro fuel frames tail enough
  have length := congrArg List.length (moreMemberBytes_cons member members [])
  simp only [List.append_nil, List.length_cons, List.length_append, length_memberBytes] at length
  cases fuel with
  | zero => omega
  | succ fuel =>
      rw [moreMemberBytes_cons, memberBytes_append, skipMore_comma (skipKey_quoted member.1 _ (by omega))]
      have passed : GoesOn (2 * member.2.bytes.length) fuel (.object :: frames) _ _ :=
        first (by omega) (endsNumber_moreMemberBytes members tail)
      exact (passed.trans fun used => others (by omega)).mono (by omega)

theorem passedOver_object_nil : PassedOver (object []) := by
  intro fuel frames tail enough _
  have length : (object []).bytes.length = 2 := rfl
  match fuel with
  | 0 => omega
  | 1 => omega
  | fuel + 2 => exact ⟨fuel, by omega, rfl⟩

theorem passedOver_object_cons (first : PassedOver member.2) (others : MoreMembersPassedOver members) :
    PassedOver (object (member :: members)) := by
  intro fuel frames tail enough _
  have length := congrArg List.length (bytes_object_cons member members [])
  simp only [List.append_nil, List.length_cons, List.length_append, List.length_nil, length_memberBytes] at length
  match fuel with
  | 0 => omega
  | 1 => omega
  | fuel + 2 =>
      obtain ⟨behind, front, _⟩ := skipString_quoted member.1
        (0x3A :: (member.2.bytes ++ (moreMemberBytes members ++ 0x7D :: tail))) (Nat.le_refl _)
      have labelled := skipKey_quoted member.1 (member.2.bytes ++ (moreMemberBytes members ++ 0x7D :: tail))
        (show (Utf8.encode (quoted member.1)).length ≤ fuel by omega)
      rw [front] at labelled
      have passed : GoesOn (2 * member.2.bytes.length) fuel (.object :: frames) _ _ :=
        first (by omega) (endsNumber_moreMemberBytes members tail)
      rw [bytes_object_cons, memberBytes_append, front, skipOpen_brace labelled]
      exact (passed.trans fun used => others (by omega)).mono (by omega)

/-! ## Documents -/

mutual

/-- Every document with whole numbers is passed over. -/
theorem passedOver : (value : Json) → value.Whole → PassedOver value
  | .null, _ => passedOver_null
  | .bool value, _ => passedOver_bool value
  | .number _, whole => passedOver_number (whole _ List.mem_cons_self)
  | .string text, _ => passedOver_string text
  | .array [], _ => passedOver_array_nil
  | .array (item :: items), whole =>
      have both := List.forall_mem_cons.1 (throughout_array.1 whole).2
      passedOver_array_cons both.1 (passedOver item both.1) (moreItemsPassedOver items both.2)
  | .object [], _ => passedOver_object_nil
  | .object ((_, value) :: members), whole =>
      have both := List.forall_mem_cons.1 (throughout_object.1 whole).2
      passedOver_object_cons (passedOver value both.1) (moreMembersPassedOver members both.2)

theorem moreItemsPassedOver : (items : List Json) → (∀ item ∈ items, item.Whole) → MoreItemsPassedOver items
  | [], _ => moreItemsPassedOver_nil
  | item :: items, whole =>
      have both := List.forall_mem_cons.1 whole
      moreItemsPassedOver_cons (passedOver item both.1) (moreItemsPassedOver items both.2)

theorem moreMembersPassedOver : (members : List (String × Json)) → (∀ member ∈ members, member.2.Whole) →
    MoreMembersPassedOver members
  | [], _ => moreMembersPassedOver_nil
  | (_, value) :: members, whole =>
      have both := List.forall_mem_cons.1 whole
      moreMembersPassedOver_cons (passedOver value both.1) (moreMembersPassedOver members both.2)

end

/-- The skipper comes behind a written document, however deep it nests and whatever keys it has. -/
theorem skipValue_bytes (whole : value.Whole) (enough : 2 * value.bytes.length < fuel) (ends : EndsNumber tail) :
    skipValue fuel (value.bytes ++ tail) = .ok tail := by
  obtain ⟨left, used, passed⟩ : GoesOn (2 * value.bytes.length) fuel [] tail _ :=
    passedOver value whole (Nat.le_of_lt enough) ends
  rw [skipValue, passed]
  cases left with
  | zero => omega
  | succ left => rw [skipMore]

end EventFeed.Json
