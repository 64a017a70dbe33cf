import EventFeed.Proofs.Json.RoundTrip
import EventFeed.Schema.FromText

/-!
# Written documents

`Writes` says how a datum is written down under a schema: fields in their order, those that may be missing left
out or not, and nothing else. The compact text of such a document is read back from its bytes as the datum.
-/

namespace EventFeed.Schema

open Json (skipBlanks isBlank readString readWord memberBytes moreItemBytes moreMemberBytes)

mutual

/-- The value is the document of a datum under a schema. -/
inductive Writes : Schema → Datum → Json → Prop where
  | text (text : String) : Writes .text (.text text) (.string text)
  | flag (value : Bool) : Writes .flag (.flag value) (.bool value)
  | choice {names : List String} {name : String} (known : names.contains name = true) :
      Writes (.choice names) (.choice name) (.string name)
  | optional {inner : Schema} {datum : Datum} {value : Json} (here : Writes inner datum value) :
      Writes (.optional inner) datum value
  | list {item : Schema} {data : List Datum} {items : List Json} (all : WritesItems item data items) :
      Writes (.list item) (.list data) (.array items)
  | record {name : String} {fields : Fields} {data : List Datum} {members : List (String × Json)}
      (distinct : (fields.map Prod.fst).Nodup) (all : WritesFields fields data members) :
      Writes (.record name fields) (.record data) (.object members)

inductive WritesItems : Schema → List Datum → List Json → Prop where
  | nil {item : Schema} : WritesItems item [] []
  | cons {item : Schema} {datum : Datum} {value : Json} {data : List Datum} {items : List Json}
      (here : Writes item datum value) (others : WritesItems item data items) :
      WritesItems item (datum :: data) (value :: items)

/-- Every member is the document of a field's datum, and the other fields may be missing. -/
inductive WritesFields : Fields → List Datum → List (String × Json) → Prop where
  | nil : WritesFields [] [] []
  | present {key : String} {required : Bool} {schema : Schema} {datum : Datum} {value : Json} {fields : Fields}
      {data : List Datum} {members : List (String × Json)} (here : Writes schema datum value)
      (others : WritesFields fields data members) :
      WritesFields ((key, required, schema) :: fields) (datum :: data) ((key, value) :: members)
  | missing {key : String} {schema : Schema} {fields : Fields} {data : List Datum}
      {members : List (String × Json)} (others : WritesFields fields data members) :
      WritesFields ((key, false, schema) :: fields) (.nothing :: data) members

end

variable {schema item : Schema} {datum : Datum} {value : Json} {data : List Datum} {items : List Json}
  {fields : Fields} {members : List (String × Json)} {fuel depth left : Nat} {first : Bool} {tail : List UInt8}

/-- The first byte of the document is no blank, no end of a list, and not that of `null`. -/
def Fronted (value : Json) : Prop :=
  ∃ b behind, value.bytes = b :: behind ∧ isBlank b = false ∧ b ≠ 0x5D ∧ b ≠ 0x6E

theorem Writes.fronted {schema : Schema} {datum : Datum} {value : Json} :
    Writes schema datum value → Fronted value
  | .text _ => ⟨_, _, rfl, by decide, by decide, by decide⟩
  | .flag true => ⟨_, _, rfl, by decide, by decide, by decide⟩
  | .flag false => ⟨_, _, rfl, by decide, by decide, by decide⟩
  | .choice _ => ⟨_, _, rfl, by decide, by decide, by decide⟩
  | .optional here => here.fronted
  | .list _ => ⟨_, _, rfl, by decide, by decide, by decide⟩
  | .record _ _ => ⟨_, _, rfl, by decide, by decide, by decide⟩

/-! ## What stands between brackets and braces -/

/-- The bytes of items inside their list; `first` when no item stands before them. -/
def itemsInside : Bool → List Json → List UInt8
  | true, item :: items => item.bytes ++ moreItemBytes items
  | true, [] => []
  | false, items => moreItemBytes items

def membersInside : Bool → List (String × Json) → List UInt8
  | true, member :: members => memberBytes member ++ moreMemberBytes members
  | true, [] => []
  | false, members => moreMemberBytes members

theorem bytes_array (items : List Json) (tail : List UInt8) :
    (Json.array items).bytes ++ tail = 0x5B :: (itemsInside true items ++ 0x5D :: tail) := by
  cases items with
  | nil => rfl
  | cons item items => rw [Json.bytes_array_cons, itemsInside, List.append_assoc]

theorem bytes_object (members : List (String × Json)) (tail : List UInt8) :
    (Json.object members).bytes ++ tail = 0x7B :: (membersInside true members ++ 0x7D :: tail) := by
  cases members with
  | nil => rfl
  | cons member members => rw [Json.bytes_object_cons, membersInside, List.append_assoc]

theorem nextItem_nil : nextItem first (itemsInside first [] ++ 0x5D :: tail) = .ok (.close tail) := by
  cases first <;> rfl

theorem nextItem_cons (front : Fronted value) :
    nextItem first (itemsInside first (value :: items) ++ tail) =
      .ok (.item (value.bytes ++ (moreItemBytes items ++ tail))) := by
  obtain ⟨b, behind, bytes, notBlank, notEnd, _⟩ := front
  cases first with
  | true =>
      rw [itemsInside, List.append_assoc, bytes, List.cons_append, nextItem, Json.skipBlanks_front notBlank]
      dsimp only
      rw [if_neg notEnd, if_pos rfl]
  | false =>
      have comma (rest : List UInt8) : skipBlanks (0x2C :: rest) = 0x2C :: rest := rfl
      rw [itemsInside, Json.moreItemBytes_cons, bytes, List.cons_append, nextItem, comma]
      dsimp only
      rw [if_neg (by decide), if_neg Bool.false_ne_true, if_pos rfl, Json.skipBlanks_front notBlank]
      exact if_neg notEnd

theorem nextKey_nil : nextKey fuel first (membersInside first [] ++ 0x7D :: tail) = .ok (.close tail) := by
  cases first <;> rfl

theorem length_itemsInside (first : Bool) (value : Json) (items : List Json) :
    value.bytes.length + (moreItemBytes items).length ≤ (itemsInside first (value :: items)).length := by
  cases first with
  | true => exact Nat.le_of_eq List.length_append.symm
  | false =>
      have more := congrArg List.length (Json.moreItemBytes_cons value items [])
      simp only [List.append_nil, List.length_cons, List.length_append] at more
      rw [itemsInside]
      omega

theorem length_membersInside (first : Bool) (key : String) (value : Json) (members : List (String × Json)) :
    (Utf8.encode (Json.quoted key)).length + value.bytes.length + (moreMemberBytes members).length ≤
      (membersInside first ((key, value) :: members)).length := by
  have length := Json.length_memberBytes (key, value)
  dsimp only at length
  cases first with
  | true =>
      rw [membersInside, List.length_append]
      omega
  | false =>
      have more := congrArg List.length (Json.moreMemberBytes_cons (key, value) members [])
      simp only [List.append_nil, List.length_cons, List.length_append] at more
      rw [membersInside]
      omega

theorem nextKey_cons (key : String) (value : Json) (members : List (String × Json)) (tail : List UInt8)
    (enough : (membersInside first ((key, value) :: members)).length ≤ fuel) :
    nextKey fuel first (membersInside first ((key, value) :: members) ++ tail) =
      .ok (.key key (0x3A :: (value.bytes ++ (moreMemberBytes members ++ tail)))) := by
  have length := length_membersInside first key value members
  have short : (Utf8.encode (Json.quoted key)).length ≤ fuel := by omega
  obtain ⟨behind, front, read⟩ := Json.readString_quoted key
    (0x3A :: (value.bytes ++ (moreMemberBytes members ++ tail))) short
  have quote : skipBlanks (0x22 :: behind) = 0x22 :: behind := rfl
  have comma (rest : List UInt8) : skipBlanks (0x2C :: rest) = 0x2C :: rest := rfl
  cases first with
  | true =>
      rw [membersInside, List.append_assoc, Json.memberBytes_append, front, nextKey, quote]
      dsimp only
      rw [if_neg (by decide), if_pos rfl, readKey, if_pos rfl, read]
      rfl
  | false =>
      rw [membersInside, Json.moreMemberBytes_cons, Json.memberBytes_append, front, nextKey, comma]
      dsimp only
      rw [if_neg (by decide), if_neg Bool.false_ne_true, if_pos rfl, quote]
      dsimp only
      rw [if_neg (by decide), readKey, if_pos rfl, read]
      rfl

/-! ## What comes back -/

/-- The document is read as its datum, wherever it stands. -/
def ComesBack (schema : Schema) (datum : Datum) (value : Json) : Prop :=
  ∀ {fuel depth : Nat} (tail : List UInt8), value.bytes.length < fuel → value.nesting ≤ depth →
    read schema fuel depth (value.bytes ++ tail) = .ok (datum, tail)

def ItemsComeBack (item : Schema) (data : List Datum) (items : List Json) : Prop :=
  ∀ {fuel depth left : Nat} (first : Bool) (tail : List UInt8), (itemsInside first items).length < left →
    left ≤ fuel → Json.itemNesting items ≤ depth →
    readItems (read item fuel depth) left first (itemsInside first items ++ 0x5D :: tail) = .ok (data, tail)

/-- The members are collected as the data of their fields, for a reader that knows these fields and perhaps
others before them. -/
def FieldsComeBack (fields : Fields) (data : List Datum) (members : List (String × Json)) : Prop :=
  ∀ {fuel depth left : Nat} (first : Bool) (tail : List UInt8) {before : List (String × Datum)}
    {field : String → Option (List UInt8 → Json.Read Datum)},
    (∀ known ∈ fields, field known.1 = some (read known.2.2 fuel depth)) →
    (∀ known ∈ fields, collected? known.1 before = none) → (fields.map Prod.fst).Nodup →
    (membersInside first members).length < left → left ≤ fuel → Json.memberNesting members ≤ depth →
    ∃ after,
      readMembers field left first before (membersInside first members ++ 0x7D :: tail) = .ok (after, tail) ∧
      assemble after fields = .ok data ∧
      ∀ key, key ∉ fields.map Prod.fst → collected? key after = collected? key before

theorem comesBack_string (text : String) (expected : String) (enough : (Json.string text).bytes.length < fuel) :
    Json.readText fuel expected ((Json.string text).bytes ++ tail) = .ok (text, tail) := by
  rw [Json.bytes, Json.chars] at enough ⊢
  obtain ⟨behind, front, read⟩ := Json.readString_quoted text tail (Nat.le_of_lt enough)
  rw [front]
  exact read

theorem comesBack_text (text : String) : ComesBack .text (.text text) (.string text) := by
  intro fuel depth tail enough _
  rw [read]
  dsimp only
  rw [comesBack_string text _ enough]
  rfl

theorem comesBack_flag (value : Bool) : ComesBack .flag (.flag value) (.bool value) := by
  intro fuel depth tail _ _
  rw [read]
  cases value <;> rfl

theorem comesBack_choice {names : List String} {name : String} (known : names.contains name = true) :
    ComesBack (.choice names) (.choice name) (.string name) := by
  intro fuel depth tail enough _
  rw [Json.bytes, Json.chars] at enough ⊢
  obtain ⟨behind, front, found⟩ := Json.readString_quoted name tail (Nat.le_of_lt enough)
  have quote : skipBlanks (0x22 :: behind) = 0x22 :: behind := rfl
  rw [front, read, readChoice, quote]
  dsimp only
  rw [if_pos rfl, found]
  dsimp only
  rw [chooseHere, choose, if_pos known]

theorem comesBack_optional {inner : Schema}
    (front : Fronted value)
    (here : ComesBack inner datum value) : ComesBack (.optional inner) datum value := by
  intro fuel depth tail enough shallow
  have found : read inner fuel depth (value.bytes ++ tail) = .ok (datum, tail) := here tail enough shallow
  obtain ⟨b, behind, bytes, notBlank, _, notNull⟩ := front
  rw [bytes, List.cons_append] at found ⊢
  rw [read]
  dsimp only
  rw [Json.skipBlanks_front notBlank]
  dsimp only
  rw [if_neg notNull]
  exact found

/-! ## Lists -/

theorem itemsComeBack_nil : ItemsComeBack item [] [] := by
  intro fuel depth left first tail enough _ _
  cases left with
  | zero => cases enough
  | succ left => rw [readItems, nextItem_nil]

theorem itemsComeBack_cons
    (front : Fronted value)
    (here : ComesBack item datum value) (others : ItemsComeBack item data items) :
    ItemsComeBack item (datum :: data) (value :: items) := by
  intro fuel depth left first tail enough most shallow
  have length := length_itemsInside first value items
  have positive : 0 < value.bytes.length := by
    obtain ⟨b, behind, bytes, _⟩ := front
    rw [bytes]
    exact Nat.succ_pos _
  rw [Json.itemNesting, Nat.max_le] at shallow
  cases left with
  | zero => cases enough
  | succ left =>
      have found : read item fuel depth _ = _ :=
        here (moreItemBytes items ++ 0x5D :: tail) (by omega) shallow.1
      have behind : readItems (read item fuel depth) left false (moreItemBytes items ++ 0x5D :: tail) = _ :=
        others false tail (by rw [itemsInside]; omega) (by omega) shallow.2
      rw [readItems, nextItem_cons front]
      dsimp only
      rw [found]
      dsimp only
      rw [behind]
      rfl

theorem comesBack_list (all : ItemsComeBack item data items) :
    ComesBack (.list item) (.list data) (.array items) := by
  intro fuel depth tail enough shallow
  have length := congrArg List.length (bytes_array items [])
  rw [List.append_nil, List.length_cons, List.length_append] at length
  rw [Json.nesting] at shallow
  have bracket (rest : List UInt8) : skipBlanks (0x5B :: rest) = 0x5B :: rest := rfl
  rw [bytes_array, read]
  dsimp only
  rw [bracket]
  dsimp only
  rw [if_pos rfl, if_neg (by omega), all true tail (by omega) (Nat.le_refl _) (by omega)]
  rfl

/-! ## Records -/

theorem fieldsComeBack_nil : FieldsComeBack [] [] [] := by
  intro fuel depth left first tail before field _ _ _ enough _ _
  cases left with
  | zero => cases enough
  | succ left =>
      refine ⟨before, ?_, rfl, fun _ _ => rfl⟩
      rw [readMembers, nextKey_nil]

theorem fieldsComeBack_missing (key : String) (schema : Schema) (others : FieldsComeBack fields data members) :
    FieldsComeBack ((key, false, schema) :: fields) (.nothing :: data) members := by
  intro fuel depth left first tail before field known new distinct enough most shallow
  rw [List.forall_mem_cons] at known new
  rw [List.map_cons, List.nodup_cons] at distinct
  obtain ⟨after, found, assembled, same⟩ := others first tail known.2 new.2 distinct.2 enough most shallow
  refine ⟨after, found, ?_, ?_⟩
  · rw [assemble, same key distinct.1, new.1, assembled]
    rfl
  · intro other absent
    exact same other fun inside => absent (List.mem_cons_of_mem _ inside)

theorem fieldsComeBack_present (key : String) (required : Bool) (here : ComesBack schema datum value)
    (others : FieldsComeBack fields data members) :
    FieldsComeBack ((key, required, schema) :: fields) (datum :: data) ((key, value) :: members) := by
  intro fuel depth left first tail before field known new distinct enough most shallow
  have length := length_membersInside first key value members
  have positive := Json.length_quoted_pos key
  rw [List.forall_mem_cons] at known new
  rw [List.map_cons, List.nodup_cons] at distinct
  rw [Json.memberNesting, Nat.max_le] at shallow
  cases left with
  | zero => cases enough
  | succ left =>
      have value_read : read schema fuel depth _ = _ :=
        here (moreMemberBytes members ++ 0x7D :: tail) (by omega) shallow.1
      have new' : ∀ known ∈ fields, collected? known.1 ((key, datum) :: before) = none := by
        intro other inside
        rw [collected?, if_neg]
        · exact new.2 other inside
        · rintro rfl
          exact distinct.1 (List.mem_map.2 ⟨other, inside, rfl⟩)
      have fewer : (membersInside false members).length < left := by
        rw [membersInside]
        omega
      obtain ⟨after, found, assembled, same⟩ :=
        others false tail known.2 new' distinct.2 fewer (by omega) shallow.2
      have mine : collected? key after = some datum := by
        rw [same key distinct.1, collected?, if_pos rfl]
      refine ⟨after, ?_, ?_, ?_⟩
      · have colon (rest : List UInt8) : Json.readColon (0x3A :: rest) = .ok rest := rfl
        rw [readMembers, nextKey_cons key value members _ (by omega)]
        dsimp only
        rw [known.1]
        dsimp only
        rw [new.1, colon]
        dsimp only
        rw [if_neg (by decide), value_read]
        exact found
      · rw [assemble, mine, assembled]
        rfl
      · intro other absent
        rw [same other fun inside => absent (List.mem_cons_of_mem _ inside), collected?, if_neg]
        rintro rfl
        exact absent List.mem_cons_self

theorem readField_of_mem (distinct : (fields.map Prod.fst).Nodup) :
    ∀ field ∈ fields, readField fields fuel depth field.1 = some (read field.2.2 fuel depth) := by
  induction fields with
  | nil => exact fun _ inside => absurd inside List.not_mem_nil
  | cons field fields ih =>
      obtain ⟨key, required, schema⟩ := field
      rw [List.map_cons, List.nodup_cons] at distinct
      refine List.forall_mem_cons.2 ⟨by rw [readField, if_pos rfl], ?_⟩
      intro other inside
      rw [readField, if_neg]
      · exact ih distinct.2 other inside
      · rintro rfl
        exact distinct.1 (List.mem_map.2 ⟨other, inside, rfl⟩)

theorem comesBack_record (name : String) (distinct : (fields.map Prod.fst).Nodup)
    (all : FieldsComeBack fields data members) :
    ComesBack (.record name fields) (.record data) (.object members) := by
  intro fuel depth tail enough shallow
  have length := congrArg List.length (bytes_object members [])
  rw [List.append_nil, List.length_cons, List.length_append] at length
  rw [Json.nesting] at shallow
  have brace (rest : List UInt8) : skipBlanks (0x7B :: rest) = 0x7B :: rest := rfl
  have fewer : (membersInside true members).length < fuel := by omega
  have inner : Json.memberNesting members ≤ depth - 1 := by omega
  have new : ∀ known ∈ fields, collected? known.1 [] = none := fun _ _ => rfl
  obtain ⟨after, found, assembled, _⟩ :=
    all true tail (readField_of_mem distinct) new distinct fewer (Nat.le_refl _) inner
  rw [bytes_object, read]
  dsimp only
  rw [brace]
  dsimp only
  rw [if_neg (by decide), if_pos rfl, if_neg (by omega), found]
  dsimp only
  rw [assembled]

/-! ## All documents -/

mutual

/-- A written document is read back from its bytes. -/
theorem Writes.comesBack {schema : Schema} {datum : Datum} {value : Json} :
    Writes schema datum value → ComesBack schema datum value
  | .text _ => comesBack_text _
  | .flag _ => comesBack_flag _
  | .choice known => comesBack_choice known
  | .optional here => comesBack_optional here.fronted here.comesBack
  | .list all => comesBack_list all.comeBack
  | .record distinct all => comesBack_record _ distinct all.comeBack

theorem WritesItems.comeBack {item : Schema} {data : List Datum} {items : List Json} :
    WritesItems item data items → ItemsComeBack item data items
  | .nil => itemsComeBack_nil
  | .cons here others => itemsComeBack_cons here.fronted here.comesBack others.comeBack

theorem WritesFields.comeBack {fields : Fields} {data : List Datum} {members : List (String × Json)} :
    WritesFields fields data members → FieldsComeBack fields data members
  | .nil => fieldsComeBack_nil
  | .present here others => fieldsComeBack_present _ _ here.comesBack others.comeBack
  | .missing others => fieldsComeBack_missing _ _ others.comeBack

end

end EventFeed.Schema
