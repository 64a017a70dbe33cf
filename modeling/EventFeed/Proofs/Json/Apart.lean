import EventFeed.Proofs.Json.RoundTrip

/-!
# Texts tell documents apart

Two documents with whole numbers that have one compact text are one document. This holds of documents with
the embedding key as well, which no reader gives back: what follows the first byte of a text is compared
piece by piece, and each piece tells where it ends.
-/

namespace EventFeed.Json

variable {value other item : Json} {member : String × Json} {items : List Json}
  {members : List (String × Json)} {tail behind : List UInt8}

/-! ## First bytes -/

/-- What the first byte of a value's text tells of the value. -/
inductive Opening where
  | null
  | bool (value : Bool)
  | number
  | string
  | array
  | object
  deriving DecidableEq, Repr

def Opening.ofByte (b : UInt8) : Opening :=
  if b = 0x6E then .null
  else if b = 0x74 then .bool true
  else if b = 0x66 then .bool false
  else if b = 0x22 then .string
  else if b = 0x5B then .array
  else if b = 0x7B then .object
  else .number

def opening : Json → Opening
  | .null => .null
  | .bool value => .bool value
  | .number _ => .number
  | .string _ => .string
  | .array _ => .array
  | .object _ => .object

theorem Opening.ofByte_of_isDigit {b : UInt8} (digit : isDigit b = true) : Opening.ofByte b = .number := by
  rw [ofByte, if_neg (ne_of_isDigit digit rfl), if_neg (ne_of_isDigit digit rfl), if_neg (ne_of_isDigit digit rfl),
    if_neg (ne_of_isDigit digit rfl), if_neg (ne_of_isDigit digit rfl), if_neg (ne_of_isDigit digit rfl)]

theorem exists_opening (whole : value.Whole) :
    ∃ first rest, value.bytes = first :: rest ∧ Opening.ofByte first = value.opening := by
  cases value with
  | null => exact ⟨_, _, rfl, rfl⟩
  | bool value => cases value <;> exact ⟨_, _, rfl, rfl⟩
  | number number =>
      rcases readNumber_numberChars (whole _ List.mem_cons_self) endsNumber_nil with
        ⟨rest, front, _⟩ | ⟨first, rest, front, digit, _⟩
      · exact ⟨_, rest, (List.append_nil _).symm.trans front, rfl⟩
      · exact ⟨first, rest, (List.append_nil _).symm.trans front, Opening.ofByte_of_isDigit digit⟩
  | string text => exact ⟨_, _, rfl, rfl⟩
  | array items => exact ⟨_, _, rfl, rfl⟩
  | object members => exact ⟨_, _, rfl, rfl⟩

/-- Texts that begin alike are texts of values of one kind. -/
theorem opening_eq (whole : value.Whole) (otherWhole : other.Whole)
    (same : value.bytes ++ tail = other.bytes ++ behind) : value.opening = other.opening := by
  obtain ⟨first, rest, front, opened⟩ := exists_opening whole
  obtain ⟨first', rest', front', opened'⟩ := exists_opening otherWhole
  rw [front, front', List.cons_append, List.cons_append, List.cons.injEq] at same
  rw [← opened, ← opened', same.1]

/-! ## Strings -/

/-- A string between quotes tells where it ends. -/
theorem quoted_apart {text text' : String}
    (same : Utf8.encode (quoted text) ++ tail = Utf8.encode (quoted text') ++ behind) :
    text = text' ∧ tail = behind := by
  have length := Nat.le_max_left (Utf8.encode (quoted text)).length (Utf8.encode (quoted text')).length
  have length' := Nat.le_max_right (Utf8.encode (quoted text)).length (Utf8.encode (quoted text')).length
  obtain ⟨rest, front, read⟩ := readString_quoted text tail length
  obtain ⟨rest', front', read'⟩ := readString_quoted text' behind length'
  rw [front, front', List.cons.injEq] at same
  -- One reader reads both, and it reads the same bytes.
  rw [same.2, read', Except.ok.injEq, Prod.mk.injEq] at read
  exact ⟨read.1.symm, read.2.symm⟩

/-! ## Values -/

/-- A value and what stands behind it can be told from its text, wherever it stands. -/
def Apart (value : Json) : Prop :=
  ∀ {other : Json} {tail behind : List UInt8}, other.Whole → EndsNumber tail → EndsNumber behind →
    value.bytes ++ tail = other.bytes ++ behind → value = other ∧ tail = behind

def ItemsApart (items : List Json) : Prop :=
  ∀ {others : List Json} {tail behind : List UInt8}, (∀ item ∈ others, item.Whole) →
    moreItemBytes items ++ 0x5D :: tail = moreItemBytes others ++ 0x5D :: behind →
      items = others ∧ tail = behind

def MembersApart (members : List (String × Json)) : Prop :=
  ∀ {others : List (String × Json)} {tail behind : List UInt8}, (∀ member ∈ others, member.2.Whole) →
    moreMemberBytes members ++ 0x7D :: tail = moreMemberBytes others ++ 0x7D :: behind →
      members = others ∧ tail = behind

theorem apart_null : Apart null := by
  intro other tail behind whole _ _ same
  have here : null.Whole := throughout_leaf rfl trivial
  have kind := opening_eq here whole same
  cases other with
  | null => exact ⟨rfl, List.append_cancel_left same⟩
  | _ => cases kind

theorem apart_bool (value : Bool) : Apart (bool value) := by
  intro other tail behind whole _ _ same
  have here : (bool value).Whole := throughout_leaf rfl trivial
  have kind := opening_eq here whole same
  cases other with
  | bool value' =>
      cases kind
      exact ⟨rfl, List.append_cancel_left same⟩
  | _ => cases kind

theorem apart_number {number : Number} (whole : IsWhole number) : Apart (.number number) := by
  intro other tail behind otherWhole ends ends' same
  have here : (Json.number number).Whole := throughout_leaf rfl whole
  have kind := opening_eq here otherWhole same
  cases other with
  | number number' =>
      rw [bytes, bytes, chars, chars] at same
      have whole' : IsWhole number' := otherWhole _ List.mem_cons_self
      rcases readNumber_numberChars whole ends with ⟨rest, front, read⟩ | ⟨first, rest, front, digit, read⟩
      · rcases readNumber_numberChars whole' ends' with
          ⟨rest', front', read'⟩ | ⟨first', rest', front', digit', read'⟩
        · rw [front, front', List.cons.injEq] at same
          rw [same.2, read', Except.ok.injEq, Prod.mk.injEq] at read
          exact ⟨congrArg Json.number read.1.symm, read.2.symm⟩
        · rw [front, front', List.cons.injEq] at same
          exact absurd same.1.symm (ne_of_isDigit digit' rfl)
      · rcases readNumber_numberChars whole' ends' with
          ⟨rest', front', read'⟩ | ⟨first', rest', front', digit', read'⟩
        · rw [front, front', List.cons.injEq] at same
          exact absurd same.1 (ne_of_isDigit digit rfl)
        · rw [front, front', List.cons.injEq] at same
          obtain ⟨rfl, rfl⟩ := same
          rw [read', Except.ok.injEq, Prod.mk.injEq] at read
          exact ⟨congrArg Json.number read.1.symm, read.2.symm⟩
  | _ => cases kind

theorem apart_string (text : String) : Apart (.string text) := by
  intro other tail behind whole _ _ same
  have here : (Json.string text).Whole := throughout_leaf rfl trivial
  have kind := opening_eq here whole same
  cases other with
  | string text' =>
      obtain ⟨rfl, rest⟩ := quoted_apart same
      exact ⟨rfl, rest⟩
  | _ => cases kind

/-! ## Lists -/

theorem itemsApart_nil : ItemsApart [] := by
  intro others tail behind _ same
  cases others with
  | nil => exact ⟨rfl, (List.cons.inj same).2⟩
  | cons item rest =>
      rw [moreItemBytes_cons] at same
      exact absurd (List.cons.inj same).1 (by decide)

theorem itemsApart_cons (first : Apart item) (others : ItemsApart items) : ItemsApart (item :: items) := by
  intro others' tail behind whole same
  cases others' with
  | nil =>
      rw [moreItemBytes_cons] at same
      exact absurd (List.cons.inj same).1 (by decide)
  | cons item' items' =>
      obtain ⟨wholeFirst, wholeRest⟩ := List.forall_mem_cons.1 whole
      rw [moreItemBytes_cons, moreItemBytes_cons, List.cons.injEq] at same
      obtain ⟨rfl, rest⟩ :=
        first wholeFirst (endsNumber_moreItemBytes items tail) (endsNumber_moreItemBytes items' behind) same.2
      obtain ⟨rfl, last⟩ := others wholeRest rest
      exact ⟨rfl, last⟩

/-- No list begins with an item and is empty. -/
theorem bytes_array_nil_ne (whole : item.Whole) (items : List Json) :
    (array []).bytes ++ tail ≠ (array (item :: items)).bytes ++ behind := by
  intro same
  obtain ⟨first, rest, front, _, notEnd⟩ := exists_front whole
  rw [bytes_array_cons, front] at same
  have here : 0x5D = first := (List.cons.inj (List.cons.inj same).2).1
  exact notEnd here.symm

theorem apart_array_nil : Apart (array []) := by
  intro other tail behind whole _ _ same
  have kind := opening_eq (throughout_array.2 ⟨trivial, List.forall_mem_nil _⟩) whole same
  cases other with
  | array items' =>
      cases items' with
      | nil => exact ⟨rfl, List.append_cancel_left same⟩
      | cons item' rest =>
          exact absurd same (bytes_array_nil_ne (List.forall_mem_cons.1 (throughout_array.1 whole).2).1 rest)
  | _ => cases kind

theorem apart_array_cons (whole : (array (item :: items)).Whole) (first : Apart item)
    (others : ItemsApart items) : Apart (array (item :: items)) := by
  intro other tail behind otherWhole _ _ same
  have kind := opening_eq whole otherWhole same
  cases other with
  | array items' =>
      cases items' with
      | nil =>
          have wholeFirst := (List.forall_mem_cons.1 (throughout_array.1 whole).2).1
          exact absurd same.symm (bytes_array_nil_ne wholeFirst items)
      | cons item' rest =>
          obtain ⟨wholeFirst, wholeRest⟩ := List.forall_mem_cons.1 (throughout_array.1 otherWhole).2
          rw [bytes_array_cons, bytes_array_cons, List.cons.injEq] at same
          obtain ⟨rfl, after⟩ :=
            first wholeFirst (endsNumber_moreItemBytes items tail) (endsNumber_moreItemBytes rest behind) same.2
          obtain ⟨rfl, last⟩ := others wholeRest after
          exact ⟨rfl, last⟩
  | _ => cases kind

/-! ## Objects -/

/-- A member and what stands behind it can be told from the text. -/
theorem member_apart {member' : String × Json} (first : Apart member.2) (whole : member'.2.Whole)
    (ends : EndsNumber tail) (ends' : EndsNumber behind)
    (same : memberBytes member ++ tail = memberBytes member' ++ behind) : member = member' ∧ tail = behind := by
  rw [memberBytes_append, memberBytes_append] at same
  obtain ⟨key, after⟩ := quoted_apart same
  obtain ⟨value, rest⟩ := first whole ends ends' (List.cons.inj after).2
  exact ⟨Prod.ext key value, rest⟩

theorem membersApart_nil : MembersApart [] := by
  intro others tail behind _ same
  cases others with
  | nil => exact ⟨rfl, (List.cons.inj same).2⟩
  | cons member rest =>
      rw [moreMemberBytes_cons] at same
      exact absurd (List.cons.inj same).1 (by decide)

theorem membersApart_cons (first : Apart member.2) (others : MembersApart members) :
    MembersApart (member :: members) := by
  intro others' tail behind whole same
  cases others' with
  | nil =>
      rw [moreMemberBytes_cons] at same
      exact absurd (List.cons.inj same).1 (by decide)
  | cons member' members' =>
      obtain ⟨wholeFirst, wholeRest⟩ := List.forall_mem_cons.1 whole
      rw [moreMemberBytes_cons, moreMemberBytes_cons, List.cons.injEq] at same
      obtain ⟨rfl, rest⟩ := member_apart first wholeFirst (endsNumber_moreMemberBytes members tail)
        (endsNumber_moreMemberBytes members' behind) same.2
      obtain ⟨rfl, last⟩ := others wholeRest rest
      exact ⟨rfl, last⟩

/-- No object begins with a member and is empty. -/
theorem bytes_object_nil_ne (member : String × Json) (members : List (String × Json)) :
    (object []).bytes ++ tail ≠ (object (member :: members)).bytes ++ behind := by
  intro same
  rw [bytes_object_cons] at same
  exact absurd (List.cons.inj (List.cons.inj same).2).1 (by decide)

theorem apart_object_nil : Apart (object []) := by
  intro other tail behind whole _ _ same
  have kind := opening_eq (throughout_object.2 ⟨trivial, List.forall_mem_nil _⟩) whole same
  cases other with
  | object members' =>
      cases members' with
      | nil => exact ⟨rfl, List.append_cancel_left same⟩
      | cons member' rest => exact absurd same (bytes_object_nil_ne member' rest)
  | _ => cases kind

theorem apart_object_cons (whole : (object (member :: members)).Whole) (first : Apart member.2)
    (others : MembersApart members) : Apart (object (member :: members)) := by
  intro other tail behind otherWhole _ _ same
  have kind := opening_eq whole otherWhole same
  cases other with
  | object members' =>
      cases members' with
      | nil => exact absurd same.symm (bytes_object_nil_ne member members)
      | cons member' rest =>
          obtain ⟨wholeFirst, wholeRest⟩ := List.forall_mem_cons.1 (throughout_object.1 otherWhole).2
          rw [bytes_object_cons, bytes_object_cons, List.cons.injEq] at same
          obtain ⟨rfl, after⟩ := member_apart first wholeFirst (endsNumber_moreMemberBytes members tail)
            (endsNumber_moreMemberBytes rest behind) same.2
          obtain ⟨rfl, last⟩ := others wholeRest after
          exact ⟨rfl, last⟩
  | _ => cases kind

/-! ## Documents -/

mutual

/-- A document with whole numbers can be told from its text, wherever it stands. -/
theorem apart : (value : Json) → value.Whole → Apart value
  | .null, _ => apart_null
  | .bool value, _ => apart_bool value
  | .number _, whole => apart_number (whole _ List.mem_cons_self)
  | .string text, _ => apart_string text
  | .array [], _ => apart_array_nil
  | .array (item :: items), whole =>
      have wholeItems := List.forall_mem_cons.1 (throughout_array.1 whole).2
      apart_array_cons whole (apart item wholeItems.1) (itemsApart items wholeItems.2)
  | .object [], _ => apart_object_nil
  | .object ((_, value) :: members), whole =>
      have wholeMembers := List.forall_mem_cons.1 (throughout_object.1 whole).2
      apart_object_cons whole (apart value wholeMembers.1) (membersApart members wholeMembers.2)

theorem itemsApart : (items : List Json) → (∀ item ∈ items, item.Whole) → ItemsApart items
  | [], _ => itemsApart_nil
  | item :: items, whole =>
      have wholeItems := List.forall_mem_cons.1 whole
      itemsApart_cons (apart item wholeItems.1) (itemsApart items wholeItems.2)

theorem membersApart : (members : List (String × Json)) → (∀ member ∈ members, member.2.Whole) →
    MembersApart members
  | [], _ => membersApart_nil
  | (_, value) :: members, whole =>
      have wholeMembers := List.forall_mem_cons.1 whole
      membersApart_cons (apart value wholeMembers.1) (membersApart members wholeMembers.2)

end

/-- Documents with whole numbers and with one compact text are one document. -/
theorem eq_of_compact_eq (whole : value.Whole) (otherWhole : other.Whole)
    (same : value.compact = other.compact) : value = other := by
  have texts : value.bytes = other.bytes := by
    rw [← ofString_compact, ← ofString_compact, same]
  exact (apart value whole otherWhole endsNumber_nil endsNumber_nil (congrArg (· ++ []) texts)).1

end EventFeed.Json
