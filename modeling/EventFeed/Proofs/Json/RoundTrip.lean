import EventFeed.Json.Printer
import EventFeed.Proofs.Json.Parts

/-!
# Documents come back

The compact text of a document with whole numbers is read as that document again, exactly when it does not
nest too deep and no object in it begins with the embedding key. The induction follows the document; beside
each reader stands what it makes of the bytes that were written for it, whatever stands behind them.
-/

namespace EventFeed.Json

variable {value item : Json} {member : String × Json} {items : List Json} {members : List (String × Json)}
  {fuel depth : Nat} {tail : List UInt8}

/-! ## What was written -/

def bytes (document : Json) : List UInt8 :=
  Utf8.encode document.chars

def moreItemBytes (items : List Json) : List UInt8 :=
  items.flatMap fun item => 0x2C :: item.bytes

def memberBytes (member : String × Json) : List UInt8 :=
  Utf8.encode (quoted member.1) ++ 0x3A :: member.2.bytes

def moreMemberBytes (members : List (String × Json)) : List UInt8 :=
  members.flatMap fun member => 0x2C :: memberBytes member

theorem encode_itemChars (item : Json) (items : List Json) :
    Utf8.encode (itemChars (item :: items)) = item.bytes ++ moreItemBytes items := by
  induction items generalizing item with
  | nil => rw [itemChars, moreItemBytes, List.flatMap_nil, List.append_nil, bytes]
  | cons next rest hypothesis =>
      rw [itemChars, Utf8.encode_append, Utf8.encode_cons, hypothesis next]
      rfl

theorem memberBytes_append (member : String × Json) (tail : List UInt8) :
    memberBytes member ++ tail = Utf8.encode (quoted member.1) ++ 0x3A :: (member.2.bytes ++ tail) := by
  rw [memberBytes, List.append_assoc, List.cons_append]

theorem encode_memberChars (member : String × Json) (members : List (String × Json)) :
    Utf8.encode (memberChars (member :: members)) = memberBytes member ++ moreMemberBytes members := by
  induction members generalizing member with
  | nil =>
      rw [memberChars, Utf8.encode_append, moreMemberBytes, List.flatMap_nil, List.append_nil]
      rfl
  | cons next rest hypothesis =>
      rw [memberChars, Utf8.encode_append, Utf8.encode_cons, Utf8.encode_append, Utf8.encode_cons, hypothesis next,
        memberBytes_append member]
      rfl

theorem bytes_array_cons (item : Json) (items : List Json) (tail : List UInt8) :
    (array (item :: items)).bytes ++ tail = 0x5B :: (item.bytes ++ (moreItemBytes items ++ 0x5D :: tail)) := by
  rw [bytes, chars, Utf8.encode_cons, Utf8.encode_append, encode_itemChars]
  simp only [List.append_assoc]
  rfl

theorem bytes_object_cons (member : String × Json) (members : List (String × Json)) (tail : List UInt8) :
    (object (member :: members)).bytes ++ tail =
      0x7B :: (memberBytes member ++ (moreMemberBytes members ++ 0x7D :: tail)) := by
  rw [bytes, chars, Utf8.encode_cons, Utf8.encode_append, encode_memberChars]
  simp only [List.append_assoc]
  rfl

theorem moreItemBytes_cons (item : Json) (items : List Json) (tail : List UInt8) :
    moreItemBytes (item :: items) ++ tail = 0x2C :: (item.bytes ++ (moreItemBytes items ++ tail)) := by
  rw [moreItemBytes, List.flatMap_cons, List.cons_append, List.cons_append, List.append_assoc]
  rfl

theorem moreMemberBytes_cons (member : String × Json) (members : List (String × Json)) (tail : List UInt8) :
    moreMemberBytes (member :: members) ++ tail =
      0x2C :: (memberBytes member ++ (moreMemberBytes members ++ tail)) := by
  rw [moreMemberBytes, List.flatMap_cons, List.cons_append, List.cons_append, List.append_assoc]
  rfl

theorem ne_of_isDigit {b c : UInt8} (digit : isDigit b = true) (other : isDigit c = false) : b ≠ c := by
  rintro rfl
  rw [digit] at other
  cases other

theorem isBlank_of_isDigit {b : UInt8} (digit : isDigit b = true) : isBlank b = false := by
  simp only [isBlank, Bool.or_eq_false_iff, decide_eq_false_iff_not]
  exact ⟨⟨⟨ne_of_isDigit digit rfl, ne_of_isDigit digit rfl⟩, ne_of_isDigit digit rfl⟩,
    ne_of_isDigit digit rfl⟩

theorem skipBlanks_front {b : UInt8} (notBlank : isBlank b = false) (rest : List UInt8) :
    skipBlanks (b :: rest) = b :: rest := by
  rw [skipBlanks, notBlank]
  rfl

/-- The first byte of a document is no blank and does not end a list. -/
theorem exists_front (whole : value.Whole) :
    ∃ first behind, value.bytes = first :: behind ∧ isBlank first = false ∧ first ≠ 0x5D := by
  cases value with
  | null => exact ⟨_, _, rfl, by decide, by decide⟩
  | bool value => cases value <;> exact ⟨_, _, rfl, by decide, by decide⟩
  | number number =>
      rcases readNumber_numberChars (whole _ List.mem_cons_self) endsNumber_nil with
        ⟨behind, front, _⟩ | ⟨first, behind, front, digit, _⟩
      · exact ⟨_, behind, (List.append_nil _).symm.trans front, by decide, by decide⟩
      · exact ⟨first, behind, (List.append_nil _).symm.trans front, isBlank_of_isDigit digit,
          ne_of_isDigit digit rfl⟩
  | string text => exact ⟨_, _, rfl, by decide, by decide⟩
  | array items => exact ⟨_, _, rfl, by decide, by decide⟩
  | object members => exact ⟨_, _, rfl, by decide, by decide⟩

/-! ## What may be read back -/

/-- So many levels of nesting suffice, and no object would be read as another document. -/
def Fits (depth : Nat) (value : Json) : Prop :=
  value.nesting ≤ depth ∧ value.Unembedded

theorem not_fits_array_zero : ¬ Fits 0 (array items) := fun fits => absurd fits.1 (Nat.not_succ_le_zero _)

theorem not_fits_object_zero : ¬ Fits 0 (object members) := fun fits => absurd fits.1 (Nat.not_succ_le_zero _)

theorem fits_array_succ : Fits (depth + 1) (array items) ↔ ∀ item ∈ items, Fits depth item := by
  rw [Fits, nesting, Nat.add_le_add_iff_right, itemNesting_le, Unembedded, throughout_array]
  simp only [UnembeddedHere, true_and, ← forall₂_and]
  rfl

theorem fits_object_succ :
    Fits (depth + 1) (object members) ↔
      UnembeddedHere (.object members) ∧ ∀ member ∈ members, Fits depth member.2 := by
  rw [Fits, nesting, Nat.add_le_add_iff_right, memberNesting_le, Unembedded, throughout_object, and_left_comm,
    ← forall₂_and]
  rfl

/-- What a reader makes of bytes that were written for a value: the value and what stands behind it, if it
may be read back, and a fault otherwise. -/
inductive Readback {α : Type} (fits : Prop) (value : α) (tail : List UInt8) : Read α → Prop where
  | same (holds : fits) : Readback fits value tail (.ok (value, tail))
  | refused (fault : Fault) (fails : ¬ fits) : Readback fits value tail (.error fault)

theorem Readback.congr {α : Type} {fits fits' : Prop} {value : α} {read : Read α}
    (readback : Readback fits value tail read) (iff : fits' ↔ fits) : Readback fits' value tail read := by
  cases readback with
  | same holds => exact .same (iff.2 holds)
  | refused fault fails => exact .refused fault (mt iff.1 fails)

theorem Readback.map {α β : Type} {fits : Prop} {value : α} {read : Read α}
    (readback : Readback fits value tail read) (f : α → β) :
    Readback fits (f value) tail (read.map fun (value, rest) => (f value, rest)) := by
  cases readback with
  | same holds => exact .same holds
  | refused fault fails => exact .refused fault fails

/-- A value is read back wherever it stands. -/
def ReadsBack (value : Json) : Prop :=
  ∀ {fuel depth : Nat} {tail : List UInt8}, 2 * value.bytes.length < fuel → EndsNumber tail →
    Readback (Fits depth value) value tail (readValue fuel depth (value.bytes ++ tail))

def MoreItemsReadBack (items : List Json) : Prop :=
  ∀ {fuel depth : Nat} {tail : List UInt8}, 2 * ((moreItemBytes items).length + 1) < fuel →
    Readback (∀ item ∈ items, Fits depth item) items tail
      (readMoreItems fuel depth (moreItemBytes items ++ 0x5D :: tail))

def MoreMembersReadBack (members : List (String × Json)) : Prop :=
  ∀ {fuel depth : Nat} {tail : List UInt8}, 2 * ((moreMemberBytes members).length + 1) < fuel →
    Readback (∀ member ∈ members, Fits depth member.2) members tail
      (readMoreMembers fuel depth (moreMemberBytes members ++ 0x7D :: tail))

/-! ## Words, numbers and strings -/

theorem readsBack_null : ReadsBack null := by
  intro fuel depth tail enough _
  cases fuel with
  | zero => cases enough
  | succ fuel =>
      rw [readValue]
      exact .same ⟨Nat.zero_le _, throughout_leaf rfl trivial⟩

theorem readsBack_bool (value : Bool) : ReadsBack (bool value) := by
  intro fuel depth tail enough _
  cases fuel with
  | zero => cases enough
  | succ fuel =>
      rw [readValue]
      cases value with
      | true => exact .same ⟨Nat.zero_le _, throughout_leaf rfl trivial⟩
      | false => exact .same ⟨Nat.zero_le _, throughout_leaf rfl trivial⟩

theorem readsBack_number {number : Number} (whole : IsWhole number) : ReadsBack (.number number) := by
  intro fuel depth tail enough ends
  have fits : Fits depth (.number number) := ⟨Nat.zero_le _, throughout_leaf rfl trivial⟩
  cases fuel with
  | zero => cases enough
  | succ fuel =>
      rw [readValue, bytes, chars]
      rcases readNumber_numberChars whole ends with
        ⟨behind, front, read⟩ | ⟨first, behind, front, digit, read⟩
      · rw [front]
        show Readback _ _ _ ((readNumber true behind).map _)
        rw [read]
        exact .same fits
      · rw [front, skipBlanks_front (isBlank_of_isDigit digit)]
        show Readback _ _ _ (if first = 0x6E then _ else _)
        rw [if_neg (ne_of_isDigit digit rfl), if_neg (ne_of_isDigit digit rfl), if_neg (ne_of_isDigit digit rfl),
          if_neg (ne_of_isDigit digit rfl), if_pos digit, read]
        exact .same fits

theorem readsBack_string (text : String) : ReadsBack (.string text) := by
  intro fuel depth tail enough _
  cases fuel with
  | zero => cases enough
  | succ fuel =>
      rw [bytes, chars] at enough ⊢
      have most : (Utf8.encode (quoted text)).length ≤ fuel := by omega
      obtain ⟨behind, front, read⟩ := readString_quoted text tail most
      rw [readValue, front]
      show Readback _ _ _ ((readString fuel behind).map _)
      rw [read]
      exact .same ⟨Nat.zero_le _, throughout_leaf rfl trivial⟩

/-! ## Lists -/

theorem moreItemsReadBack_nil : MoreItemsReadBack [] := by
  intro fuel depth tail enough
  cases fuel with
  | zero => cases enough
  | succ fuel =>
      rw [readMoreItems]
      exact .same (List.forall_mem_nil _)

theorem endsNumber_moreItemBytes (items : List Json) (tail : List UInt8) :
    EndsNumber (moreItemBytes items ++ 0x5D :: tail) := by
  cases items with
  | nil => exact endsNumber_cons (by decide)
  | cons item items => exact endsNumber_cons (by decide)

def thenMore {α : Type} (entry : Json → α) (first : Read Json) (others : List UInt8 → Read (List α)) :
    Read (List α) :=
  match first with
  | .error fault => .error fault
  | .ok (value, rest) =>
      match others rest with
      | .error fault => .error fault
      | .ok (entries, rest) => .ok (entry value :: entries, rest)

theorem Readback.thenMore {α : Type} (entry : Json → α) {fitsFirst fitsOthers : Prop} {entries : List α}
    {between : List UInt8} {first : Read Json} {others : List UInt8 → Read (List α)}
    (readFirst : Readback fitsFirst value between first)
    (readOthers : Readback fitsOthers entries tail (others between)) :
    Readback (fitsFirst ∧ fitsOthers) (entry value :: entries) tail (thenMore entry first others) := by
  cases readFirst with
  | refused fault fails => exact .refused fault fun both => fails both.1
  | same holds =>
      rw [Json.thenMore]
      generalize others between = read at readOthers
      cases readOthers with
      | refused fault fails => exact .refused fault fun both => fails both.2
      | same othersHold => exact .same ⟨holds, othersHold⟩

theorem readMoreItems_comma {byte : UInt8} {behind : List UInt8} (notBlank : isBlank byte = false)
    (notEnd : byte ≠ 0x5D) :
    readMoreItems (fuel + 1) depth (0x2C :: byte :: behind) =
      thenMore id (readValue fuel depth (byte :: behind)) (readMoreItems fuel depth) := by
  have comma : skipBlanks (0x2C :: byte :: behind) = 0x2C :: byte :: behind := rfl
  rw [readMoreItems, comma]
  dsimp only
  rw [if_neg (by decide), if_pos rfl, skipBlanks_front notBlank]
  dsimp only
  rw [if_neg notEnd]
  cases readValue fuel depth (byte :: behind) with
  | error fault => rfl
  | ok found =>
      dsimp only [thenMore]
      cases readMoreItems fuel depth found.2 with
      | error fault => rfl
      | ok others => rfl

theorem moreItemsReadBack_cons (whole : item.Whole) (first : ReadsBack item)
    (others : MoreItemsReadBack items) : MoreItemsReadBack (item :: items) := by
  intro fuel depth tail enough
  cases fuel with
  | zero => cases enough
  | succ fuel =>
      have length := congrArg List.length (moreItemBytes_cons item items [])
      simp only [List.append_nil, List.length_cons, List.length_append] at length
      have enoughFirst : 2 * item.bytes.length < fuel := by omega
      have enoughOthers : 2 * ((moreItemBytes items).length + 1) < fuel := by omega
      have readFirst : Readback (Fits depth item) item _ _ :=
        first enoughFirst (endsNumber_moreItemBytes items tail)
      obtain ⟨byte, behind, front, notBlank, notEnd⟩ := exists_front whole
      rw [front, List.cons_append] at readFirst
      rw [moreItemBytes_cons, front, List.cons_append, readMoreItems_comma notBlank notEnd]
      exact (Readback.thenMore id readFirst (others enoughOthers)).congr List.forall_mem_cons

theorem readItems_front {byte : UInt8} {behind : List UInt8} (notBlank : isBlank byte = false)
    (notEnd : byte ≠ 0x5D) :
    readItems (fuel + 1) depth (byte :: behind) =
      thenMore id (readValue fuel depth (byte :: behind)) (readMoreItems fuel depth) := by
  rw [readItems, skipBlanks_front notBlank]
  dsimp only
  rw [if_neg notEnd]
  cases readValue fuel depth (byte :: behind) with
  | error fault => rfl
  | ok found =>
      dsimp only [thenMore]
      cases readMoreItems fuel depth found.2 with
      | error fault => rfl
      | ok others => rfl

/-- A list is read back when its items are. -/
theorem readsBack_array (inside : List UInt8)
    (spelled : ∀ tail, (array items).bytes ++ tail = 0x5B :: (inside ++ 0x5D :: tail))
    (read : ∀ {fuel depth : Nat} {tail : List UInt8}, 2 * (inside.length + 1) < fuel →
      Readback (∀ item ∈ items, Fits depth item) items tail (readItems fuel depth (inside ++ 0x5D :: tail))) :
    ReadsBack (array items) := by
  intro fuel depth tail enough _
  cases fuel with
  | zero => cases enough
  | succ fuel =>
      have length := congrArg List.length (spelled [])
      simp only [List.append_nil, List.length_cons, List.length_append, List.length_nil] at length
      have enoughInside : 2 * (inside.length + 1) < fuel := by omega
      rw [spelled, readValue]
      cases depth with
      | zero => exact .refused _ not_fits_array_zero
      | succ depth => exact ((read enoughInside).map array).congr fits_array_succ

theorem readsBack_array_nil : ReadsBack (array []) := by
  refine readsBack_array [] (fun tail => rfl) ?_
  intro fuel depth tail enough
  cases fuel with
  | zero => cases enough
  | succ fuel =>
      rw [readItems]
      exact .same (List.forall_mem_nil _)

theorem readsBack_array_cons (whole : item.Whole) (first : ReadsBack item) (others : MoreItemsReadBack items) :
    ReadsBack (array (item :: items)) := by
  refine readsBack_array (item.bytes ++ moreItemBytes items)
    (fun tail => by rw [bytes_array_cons, List.append_assoc]) ?_
  intro fuel depth tail enough
  cases fuel with
  | zero => cases enough
  | succ fuel =>
      obtain ⟨byte, behind, front, notBlank, notEnd⟩ := exists_front whole
      have length := congrArg List.length front
      rw [List.length_cons] at length
      rw [List.length_append] at enough
      have enoughFirst : 2 * item.bytes.length < fuel := by omega
      have enoughOthers : 2 * ((moreItemBytes items).length + 1) < fuel := by omega
      have readFirst : Readback (Fits depth item) item _ _ :=
        first enoughFirst (endsNumber_moreItemBytes items tail)
      rw [front, List.cons_append] at readFirst
      rw [List.append_assoc, front, List.cons_append, readItems_front notBlank notEnd]
      exact (Readback.thenMore id readFirst (others enoughOthers)).congr List.forall_mem_cons

/-! ## Objects -/

theorem moreMembersReadBack_nil : MoreMembersReadBack [] := by
  intro fuel depth tail enough
  cases fuel with
  | zero => cases enough
  | succ fuel =>
      rw [readMoreMembers]
      exact .same (List.forall_mem_nil _)

theorem endsNumber_moreMemberBytes (members : List (String × Json)) (tail : List UInt8) :
    EndsNumber (moreMemberBytes members ++ 0x7D :: tail) := by
  cases members with
  | nil => exact endsNumber_cons (by decide)
  | cons member members => exact endsNumber_cons (by decide)

theorem readMember_colon (key : String) (rest : List UInt8) :
    readMember (fuel + 1) depth key (0x3A :: rest) =
      thenMore (key, ·) (readValue fuel depth rest) (readMoreMembers fuel depth) := by
  have colon : readColon (0x3A :: rest) = .ok rest := rfl
  rw [readMember, colon]
  dsimp only
  cases readValue fuel depth rest with
  | error fault => rfl
  | ok found =>
      dsimp only [thenMore]
      cases readMoreMembers fuel depth found.2 with
      | error fault => rfl
      | ok others => rfl

/-- What stands behind a key is read back, and the members behind it. -/
theorem readback_readMember (first : ReadsBack member.2) (others : MoreMembersReadBack members)
    (enough : 2 * (member.2.bytes.length + (moreMemberBytes members).length + 2) < fuel) :
    Readback (∀ entry ∈ member :: members, Fits depth entry.2) (member :: members) tail
      (readMember fuel depth member.1 (0x3A :: (member.2.bytes ++ (moreMemberBytes members ++ 0x7D :: tail)))) := by
  cases fuel with
  | zero => cases enough
  | succ fuel =>
      have enoughFirst : 2 * member.2.bytes.length < fuel := by omega
      have enoughOthers : 2 * ((moreMemberBytes members).length + 1) < fuel := by omega
      have readFirst : Readback (Fits depth member.2) member.2 _ _ :=
        first enoughFirst (endsNumber_moreMemberBytes members tail)
      rw [readMember_colon]
      exact (Readback.thenMore (member.1, ·) readFirst (others enoughOthers)).congr List.forall_mem_cons

theorem length_quoted_pos (text : String) : 0 < (Utf8.encode (quoted text)).length :=
  Nat.succ_pos _

theorem length_memberBytes (member : String × Json) :
    (memberBytes member).length = (Utf8.encode (quoted member.1)).length + (member.2.bytes.length + 1) := by
  rw [memberBytes, List.length_append, List.length_cons]

theorem moreMembersReadBack_cons (first : ReadsBack member.2) (others : MoreMembersReadBack members) :
    MoreMembersReadBack (member :: members) := by
  intro fuel depth tail enough
  cases fuel with
  | zero => cases enough
  | succ fuel =>
      have length := congrArg List.length (moreMemberBytes_cons member members [])
      simp only [List.append_nil, List.length_cons, List.length_append, length_memberBytes] at length
      have enoughKey : (Utf8.encode (quoted member.1)).length ≤ fuel := by omega
      have enoughBehind : 2 * (member.2.bytes.length + (moreMemberBytes members).length + 2) < fuel := by omega
      obtain ⟨behind, front, read⟩ := readString_quoted member.1
        (0x3A :: (member.2.bytes ++ (moreMemberBytes members ++ 0x7D :: tail))) enoughKey
      have comma : skipBlanks (0x2C :: 0x22 :: behind) = 0x2C :: 0x22 :: behind := rfl
      have quote : skipBlanks (0x22 :: behind) = 0x22 :: behind := rfl
      rw [moreMemberBytes_cons, memberBytes_append, front, readMoreMembers, comma]
      dsimp only
      rw [if_neg (by decide), if_pos rfl, quote]
      dsimp only
      rw [if_pos rfl, read]
      exact readback_readMember first others enoughBehind

theorem exists_fault_readText {first : UInt8} (notBlank : isBlank first = false) (notQuote : first ≠ 0x22)
    (expected : String) (behind : List UInt8) :
    ∃ fault, readText fuel expected (first :: behind) = .error fault := by
  rw [readText, skipBlanks_front notBlank]
  exact ⟨_, if_neg notQuote⟩

/-- Only a text is read where a text has to stand. -/
theorem readText_bytes (whole : value.Whole) (expected : String) (enough : value.bytes.length ≤ fuel)
    (tail : List UInt8) :
    (∃ text, readText fuel expected (value.bytes ++ tail) = .ok (text, tail)) ∨
      ∃ fault, readText fuel expected (value.bytes ++ tail) = .error fault := by
  cases value with
  | null => exact .inr (exists_fault_readText (by decide) (by decide) expected _)
  | bool value => cases value <;> exact .inr (exists_fault_readText (by decide) (by decide) expected _)
  | number number =>
      right
      rcases readNumber_numberChars (whole _ List.mem_cons_self) endsNumber_nil with
        ⟨behind, front, _⟩ | ⟨first, behind, front, digit, _⟩
      · rw [List.append_nil] at front
        rw [bytes, chars, front]
        exact exists_fault_readText (by decide) (by decide) expected _
      · rw [List.append_nil] at front
        rw [bytes, chars, front]
        exact exists_fault_readText (isBlank_of_isDigit digit) (ne_of_isDigit digit rfl) expected _
  | string text =>
      left
      obtain ⟨behind, front, read⟩ := readString_quoted text tail enough
      rw [bytes, chars, front]
      exact ⟨text, read⟩
  | array items => exact .inr (exists_fault_readText (by decide) (by decide) expected _)
  | object members => exact .inr (exists_fault_readText (by decide) (by decide) expected _)

/-- Behind the embedding key, no value is read that another member follows. -/
theorem exists_fault_readEmbedded (whole : value.Whole) (enough : value.bytes.length ≤ fuel)
    (rest : List UInt8) :
    ∃ fault, readEmbedded (fuel + 1) (0x3A :: (value.bytes ++ 0x2C :: rest)) = .error fault := by
  have colon : readColon (0x3A :: (value.bytes ++ 0x2C :: rest)) = .ok (value.bytes ++ 0x2C :: rest) := rfl
  rw [readEmbedded, colon]
  dsimp only
  rcases readText_bytes whole "raw value" enough (0x2C :: rest) with ⟨text, read⟩ | ⟨fault, read⟩
  · rw [read]
    dsimp only
    split
    · exact ⟨_, rfl⟩
    split
    · exact ⟨_, rfl⟩
    · exact ⟨_, rfl⟩
  · rw [read]
    exact ⟨fault, rfl⟩

/-- An object is read back when what stands between its braces is. -/
theorem readsBack_object (inside : List UInt8)
    (spelled : ∀ tail, (object members).bytes ++ tail = 0x7B :: (inside ++ 0x7D :: tail))
    (read : ∀ {fuel depth : Nat} {tail : List UInt8}, 2 * (inside.length + 1) < fuel →
      Readback (UnembeddedHere (.object members) ∧ ∀ member ∈ members, Fits depth member.2) (object members)
        tail (readObject fuel depth (inside ++ 0x7D :: tail))) :
    ReadsBack (object members) := by
  intro fuel depth tail enough _
  cases fuel with
  | zero => cases enough
  | succ fuel =>
      have length := congrArg List.length (spelled [])
      simp only [List.append_nil, List.length_cons, List.length_append, List.length_nil] at length
      have enoughInside : 2 * (inside.length + 1) < fuel := by omega
      rw [spelled, readValue]
      cases depth with
      | zero => exact .refused _ not_fits_object_zero
      | succ depth => exact (read enoughInside).congr fits_object_succ

theorem readsBack_object_nil : ReadsBack (object []) := by
  refine readsBack_object [] (fun tail => rfl) ?_
  intro fuel depth tail enough
  cases fuel with
  | zero => cases enough
  | succ fuel =>
      rw [readObject]
      exact .same ⟨trivial, List.forall_mem_nil _⟩

theorem readsBack_object_cons (whole : member.2.Whole)
    (accompanied : AccompaniedHere (.object (member :: members))) (first : ReadsBack member.2)
    (others : MoreMembersReadBack members) : ReadsBack (object (member :: members)) := by
  refine readsBack_object (memberBytes member ++ moreMemberBytes members)
    (fun tail => by rw [bytes_object_cons, List.append_assoc]) ?_
  intro fuel depth tail enough
  cases fuel with
  | zero => cases enough
  | succ fuel =>
      rw [List.length_append, length_memberBytes] at enough
      have positive := length_quoted_pos member.1
      have enoughKey : (Utf8.encode (quoted member.1)).length ≤ fuel := by omega
      have enoughBehind : 2 * (member.2.bytes.length + (moreMemberBytes members).length + 2) < fuel := by omega
      obtain ⟨behind, front, read⟩ := readString_quoted member.1
        (0x3A :: (member.2.bytes ++ (moreMemberBytes members ++ 0x7D :: tail))) enoughKey
      have quote : skipBlanks (0x22 :: behind) = 0x22 :: behind := rfl
      rw [List.append_assoc, memberBytes_append, front, readObject, quote]
      dsimp only
      rw [if_neg (by decide), if_pos rfl, read]
      dsimp only
      by_cases embedded : member.1 = embeddedKey
      · rw [if_pos embedded]
        have fails : ¬ UnembeddedHere (.object (member :: members)) := fun holds => holds embedded
        cases members with
        | nil => exact absurd embedded accompanied
        | cons second more =>
            cases fuel with
            | zero => cases enoughBehind
            | succ fuel =>
                have enoughValue : member.2.bytes.length ≤ fuel := by omega
                rw [moreMemberBytes_cons]
                obtain ⟨fault, refused⟩ := exists_fault_readEmbedded whole enoughValue _
                rw [refused]
                exact .refused fault fun both => fails both.1
      · rw [if_neg embedded]
        have readMembers : Readback (∀ entry ∈ member :: members, Fits depth entry.2) _ tail _ :=
          readback_readMember first others enoughBehind
        generalize readMember fuel depth member.1 _ = found at readMembers ⊢
        cases readMembers with
        | same holds => exact .same ⟨embedded, holds⟩
        | refused fault fails => exact .refused fault fun both => fails both.2

/-! ## Documents -/

mutual

/-- A document with whole numbers is read back, or refused where it must not be read back, wherever it
stands. -/
theorem readsBack : (value : Json) → value.Whole → value.Accompanied → ReadsBack value
  | .null, _, _ => readsBack_null
  | .bool value, _, _ => readsBack_bool value
  | .number _, whole, _ => readsBack_number (whole _ List.mem_cons_self)
  | .string text, _, _ => readsBack_string text
  | .array [], _, _ => readsBack_array_nil
  | .array (item :: items), whole, accompanied =>
      have wholeItems := List.forall_mem_cons.1 (throughout_array.1 whole).2
      have accompaniedItems := List.forall_mem_cons.1 (throughout_array.1 accompanied).2
      readsBack_array_cons wholeItems.1 (readsBack item wholeItems.1 accompaniedItems.1)
        (moreItemsReadBack items wholeItems.2 accompaniedItems.2)
  | .object [], _, _ => readsBack_object_nil
  | .object ((_, value) :: members), whole, accompanied =>
      have wholeMembers := List.forall_mem_cons.1 (throughout_object.1 whole).2
      have accompaniedMembers := List.forall_mem_cons.1 (throughout_object.1 accompanied).2
      readsBack_object_cons wholeMembers.1 (throughout_object.1 accompanied).1
        (readsBack value wholeMembers.1 accompaniedMembers.1)
        (moreMembersReadBack members wholeMembers.2 accompaniedMembers.2)

theorem moreItemsReadBack : (items : List Json) → (∀ item ∈ items, item.Whole) →
    (∀ item ∈ items, item.Accompanied) → MoreItemsReadBack items
  | [], _, _ => moreItemsReadBack_nil
  | item :: items, whole, accompanied =>
      have wholeItems := List.forall_mem_cons.1 whole
      have accompaniedItems := List.forall_mem_cons.1 accompanied
      moreItemsReadBack_cons wholeItems.1 (readsBack item wholeItems.1 accompaniedItems.1)
        (moreItemsReadBack items wholeItems.2 accompaniedItems.2)

theorem moreMembersReadBack : (members : List (String × Json)) → (∀ member ∈ members, member.2.Whole) →
    (∀ member ∈ members, member.2.Accompanied) → MoreMembersReadBack members
  | [], _, _ => moreMembersReadBack_nil
  | (_, value) :: members, whole, accompanied =>
      have wholeMembers := List.forall_mem_cons.1 whole
      have accompaniedMembers := List.forall_mem_cons.1 accompanied
      moreMembersReadBack_cons (readsBack value wholeMembers.1 accompaniedMembers.1)
        (moreMembersReadBack members wholeMembers.2 accompaniedMembers.2)

end

theorem insertMember_of_below {key : String} (below : ∀ entry ∈ members, key < entry.1) :
    insertMember key value members = (key, value) :: members := by
  cases members with
  | nil => rfl
  | cons first rest =>
      rw [insertMember, if_pos (below first List.mem_cons_self)]

mutual

/-- What is in key order stays as it is. -/
theorem sorted_of_ordered : (value : Json) → value.Ordered → value.sorted = value
  | .null, _ => rfl
  | .bool _, _ => rfl
  | .number _, _ => rfl
  | .string _, _ => rfl
  | .array items, ordered => congrArg Json.array (sortedItems_of_ordered items ordered)
  | .object members, ordered => congrArg Json.object (sortedMembers_of_ordered members ordered)

theorem sortedItems_of_ordered : (items : List Json) → OrderedItems items → sortedItems items = items
  | [], _ => rfl
  | item :: rest, ordered => by
      rw [sortedItems, sorted_of_ordered item ordered.1, sortedItems_of_ordered rest ordered.2]

theorem sortedMembers_of_ordered : (members : List (String × Json)) → OrderedMembers members →
    sortedMembers members = members
  | [], _ => rfl
  | (key, value) :: rest, ordered => by
      rw [sortedMembers, sorted_of_ordered value ordered.1, sortedMembers_of_ordered rest ordered.2.2]
      exact insertMember_of_below ordered.2.1

end

theorem ofString_compact (value : Json) : Utf8.ofString value.compact = value.bytes := by
  rw [Utf8.ofString, compact, String.toList_ofList, bytes]

/-- The compact text of a document is parsed as the document in key order when it may be read back, and
refused otherwise. -/
theorem parseText_sorted (whole : value.Whole) (accompanied : value.Accompanied) :
    Fits nestingLimit value ∧ parseText value.compact = .ok value.sorted ∨
      ¬ Fits nestingLimit value ∧ ∃ error, parseText value.compact = .error error := by
  have enough : 2 * value.bytes.length < fuelFor value.bytes := by
    rw [fuelFor]
    omega
  have readback : Readback (Fits nestingLimit value) value [] _ :=
    readsBack value whole accompanied enough endsNumber_nil
  rw [List.append_nil] at readback
  rw [parseText, ofString_compact, parse, readDocument]
  generalize readValue (fuelFor value.bytes) nestingLimit value.bytes = read at readback
  cases readback with
  | same holds => exact .inl ⟨holds, rfl⟩
  | refused fault fails => exact .inr ⟨fails, _, rfl⟩

theorem parseText_compact (ordered : value.Ordered) (whole : value.Whole) (accompanied : value.Accompanied) :
    Fits nestingLimit value ∧ parseText value.compact = .ok value ∨
      ¬ Fits nestingLimit value ∧ ∃ error, parseText value.compact = .error error := by
  have parsed := parseText_sorted whole accompanied
  rw [sorted_of_ordered value ordered] at parsed
  exact parsed

/-- What is in key order comes back from its text exactly if it may be read back. -/
theorem parseText_compact_iff (ordered : value.Ordered) (whole : value.Whole) :
    parseText value.compact = .ok value ↔ Fits nestingLimit value := by
  by_cases accompanied : value.Accompanied
  · rcases parseText_compact ordered whole accompanied with ⟨fits, parsed⟩ | ⟨fails, error, refused⟩
    · exact iff_of_true parsed fits
    · refine iff_of_false ?_ fails
      rw [refused]
      exact nofun
  -- What is read always has accompanied keys only, and so has what may be read back.
  · refine iff_of_false (fun parsed => accompanied (accompanied_of_parse parsed)) fun fits => accompanied ?_
    have sorted := accompanied_sorted value fits.2
    rw [sorted_of_ordered value ordered] at sorted
    exact sorted

/-! ## Visible bytes -/

mutual

theorem visible_chars : (value : Json) → value.Whole → Visible value.chars
  | .null, _ => by decide
  | .bool true, _ => by decide
  | .bool false, _ => by decide
  | .number _, whole => visible_numberChars (whole _ List.mem_cons_self)
  | .string text, _ => visible_quoted text
  | .array items, whole =>
      visible_cons (by decide)
        (visible_append (visible_itemChars items (throughout_array.1 whole).2) (by decide))
  | .object members, whole =>
      visible_cons (by decide)
        (visible_append (visible_memberChars members (throughout_object.1 whole).2) (by decide))

theorem visible_itemChars : (items : List Json) → (∀ item ∈ items, item.Whole) → Visible (itemChars items)
  | [], _ => by decide
  | item :: [], whole => visible_chars item (whole item List.mem_cons_self)
  | item :: next :: rest, whole =>
      have both := List.forall_mem_cons.1 whole
      visible_append (visible_chars item both.1)
        (visible_cons (by decide) (visible_itemChars (next :: rest) both.2))

theorem visible_memberChars : (members : List (String × Json)) → (∀ member ∈ members, member.2.Whole) →
    Visible (memberChars members)
  | [], _ => by decide
  | (key, value) :: [], whole =>
      visible_append (visible_quoted key)
        (visible_cons (by decide) (visible_chars value (whole (key, value) List.mem_cons_self)))
  | (key, value) :: next :: rest, whole =>
      have both := List.forall_mem_cons.1 whole
      visible_append (visible_quoted key) (visible_cons (by decide) (visible_append (visible_chars value both.1)
        (visible_cons (by decide) (visible_memberChars (next :: rest) both.2))))

end

end EventFeed.Json
