import EventFeed.Proofs.Schema.Agreement
import EventFeed.Proofs.Schema.Written
import EventFeed.Schema.Document

/-!
# Both ways to decode

A type whose documents are written as its schema asks gets each value back from its own text, from the bytes and
by way of the JSON value; and on any other document that both ways accept, they find the same value.
-/

namespace EventFeed

namespace Schema

open Json (embeddedKey)

/-! ## Written documents as JSON -/

mutual

def nesting : Schema → Nat
  | .text => 0
  | .flag => 0
  | .choice _ => 0
  | .optional inner => inner.nesting
  | .list item => item.nesting + 1
  | .record _ fields => fieldNesting fields + 1

def fieldNesting : Fields → Nat
  | [] => 0
  | (_, _, schema) :: rest => max schema.nesting (fieldNesting rest)

end

/-- The document is no number, and no member of it has the embedding key. -/
def WrittenHere : Json → Prop
  | .number _ => False
  | .object members => ∀ member ∈ members, member.1 ≠ embeddedKey
  | _ => True

mutual

theorem Writes.nesting_le {schema : Schema} {datum : Datum} {value : Json} :
    Writes schema datum value → value.nesting ≤ schema.nesting
  | .text _ => Nat.le_refl _
  | .flag _ => Nat.le_refl _
  | .choice _ => Nat.le_refl _
  | .optional here => here.nesting_le
  | .list all => Nat.succ_le_succ all.nesting_le
  | .record _ all => Nat.succ_le_succ all.nesting_le

theorem WritesItems.nesting_le {item : Schema} {data : List Datum} {items : List Json} :
    WritesItems item data items → Json.itemNesting items ≤ item.nesting
  | .nil => Nat.zero_le _
  | .cons here others => Nat.max_le.2 ⟨here.nesting_le, others.nesting_le⟩

theorem WritesFields.nesting_le {fields : Fields} {data : List Datum} {members : List (String × Json)} :
    WritesFields fields data members → Json.memberNesting members ≤ fieldNesting fields
  | .nil => Nat.le_refl _
  | .present here others =>
      Nat.max_le.2 ⟨Nat.le_trans here.nesting_le (Nat.le_max_left _ _),
        Nat.le_trans others.nesting_le (Nat.le_max_right _ _)⟩
  | .missing others => Nat.le_trans others.nesting_le (Nat.le_max_right _ _)

end

mutual

theorem Writes.throughout {schema : Schema} {datum : Datum} {value : Json} :
    Writes schema datum value → schema.refusesEmbedding = true → value.Throughout WrittenHere
  | .text _, _ => Json.throughout_leaf rfl trivial
  | .flag _, _ => Json.throughout_leaf rfl trivial
  | .choice _, _ => Json.throughout_leaf rfl trivial
  | .optional here, refuses => here.throughout refuses
  | .list all, refuses => Json.throughout_array.2 ⟨trivial, all.throughout refuses⟩
  | .record _ all, refuses => by
      rw [refusesEmbedding, Bool.and_eq_true] at refuses
      have both := all.throughout refuses.2
      exact Json.throughout_object.2
        ⟨fun member inside => (both member inside).1, fun member inside => (both member inside).2⟩

theorem WritesItems.throughout {item : Schema} {data : List Datum} {items : List Json} :
    WritesItems item data items → item.refusesEmbedding = true → ∀ value ∈ items, value.Throughout WrittenHere
  | .nil, _ => nofun
  | .cons here others, refuses => List.forall_mem_cons.2 ⟨here.throughout refuses, others.throughout refuses⟩

theorem WritesFields.throughout {fields : Fields} {data : List Datum} {members : List (String × Json)} :
    WritesFields fields data members → fieldsRefuseEmbedding fields = true →
      ∀ member ∈ members, member.1 ≠ embeddedKey ∧ member.2.Throughout WrittenHere
  | .nil, _ => nofun
  | .present here others, refuses => by
      simp only [fieldsRefuseEmbedding, Bool.and_eq_true, decide_eq_true_eq] at refuses
      exact List.forall_mem_cons.2 ⟨⟨refuses.1.1, here.throughout refuses.1.2⟩, others.throughout refuses.2⟩
  | .missing others, refuses => by
      rw [fieldsRefuseEmbedding, Bool.and_eq_true] at refuses
      exact others.throughout refuses.2

end

theorem writtenHere_imp {part : Json} (written : WrittenHere part) :
    part.WholeHere ∧ part.UnembeddedHere ∧ part.AccompaniedHere := by
  cases part with
  | number _ => exact written.elim
  | object members =>
      refine ⟨trivial, ?_, ?_⟩
      · cases members with
        | nil => trivial
        | cons member members => exact written member List.mem_cons_self
      · unfold Json.AccompaniedHere
        split
        · rename_i alone
          cases alone
          exact written _ List.mem_cons_self
        · trivial
  | _ => exact ⟨trivial, trivial, trivial⟩

variable {schema : Schema} {datum : Datum} {value : Json} {document : List UInt8}

theorem Writes.decode (writes : Writes schema datum value) (shallow : schema.nesting ≤ Json.nestingLimit) :
    Schema.decode schema value.bytes = .ok datum := by
  have enough : value.bytes.length < Json.fuelFor value.bytes := by
    rw [Json.fuelFor]
    omega
  have found := writes.comesBack [] enough (Nat.le_trans writes.nesting_le shallow)
  rw [List.append_nil] at found
  rw [Schema.decode, found]
  rfl

theorem Writes.parse (writes : Writes schema datum value) (refuses : schema.refusesEmbedding = true)
    (shallow : schema.nesting ≤ Json.nestingLimit) : Json.parse value.bytes = .ok value.sorted := by
  have all := writes.throughout refuses
  have whole : value.Whole := fun part inside => (writtenHere_imp (all part inside)).1
  have unembedded : value.Unembedded := fun part inside => (writtenHere_imp (all part inside)).2.1
  have accompanied : value.Accompanied := fun part inside => (writtenHere_imp (all part inside)).2.2
  have fits : Json.Fits Json.nestingLimit value := ⟨Nat.le_trans writes.nesting_le shallow, unembedded⟩
  rcases Json.parseText_sorted whole accompanied with ⟨_, parsed⟩ | ⟨fails, _⟩
  · rw [Json.parseText, Json.ofString_compact] at parsed
    exact parsed
  · exact absurd fits fails

/-- What a document holds that is accepted from its bytes, its value holds, if it spells one. -/
theorem decodeJson_of_decode (refuses : schema.refusesEmbedding = true)
    (direct : decode schema document = .ok datum) (parsed : Json.parse document = .ok value) :
    decodeJson schema value = .ok datum := by
  unfold decode at direct
  split at direct
  · cases direct
  rename_i datum rest found
  split at direct
  · cases direct
  cases direct
  unfold Json.parse Json.readDocument at parsed
  split at parsed
  · cases parsed
  rename_i raw read
  cases parsed
  split at read
  · cases read
  rename_i first behind spelled
  cases ended : Json.readEnd behind with
  | error fault =>
      rw [ended] at read
      cases read
  | ok _ =>
      rw [ended] at read
      cases read
      rw [decodeJson, (agrees schema refuses found ((acceptsSpelled _).value spelled)).2]

/-- The value is written as the schema asks, and the datum written gives it back. -/
def Carries {α : Type} (schema : Schema) (ofDatum? : Datum → Option α) (toJson : α → Json) (value : α) : Prop :=
  ∃ datum, schema.Writes datum (toJson value) ∧ ofDatum? datum = some value

theorem carries_list {α : Type} {ofDatum? : Datum → Option α} {toJson : α → Json}
    (each : ∀ value, Carries schema ofDatum? toJson value) (values : List α) :
    ∃ data, WritesItems schema data (values.map toJson) ∧ data.mapM ofDatum? = some values := by
  induction values with
  | nil => exact ⟨[], .nil, rfl⟩
  | cons value values ih =>
      obtain ⟨datum, here, back⟩ := each value
      obtain ⟨data, others, allBack⟩ := ih
      refine ⟨datum :: data, .cons here others, ?_⟩
      rw [List.mapM_cons, back, allBack]
      rfl

end Schema

namespace Document

variable {α : Type} [Document α]

/-- A type whose documents are written as its schema asks, and are no embedding objects. -/
structure Lawful (α : Type) [Document α] : Prop where
  refuses : (schema α).refusesEmbedding = true
  shallow : (schema α).nesting ≤ Json.nestingLimit
  written : ∀ value : α, Schema.Carries (schema α) ofDatum? toJson value

/-- Decoding is the way back from encoding, from the bytes and by way of the JSON value, and the two agree on
every document that both accept. -/
structure ComesBack (α : Type) [Document α] : Prop where
  direct : ∀ value : α, decode (Utf8.ofString (encode value)) = .ok value
  byValue : ∀ value : α, decodeByValue (Utf8.ofString (encode value)) = .ok value
  agree : ∀ (document : List UInt8) (value other : α), decode document = .ok value →
    decodeByValue document = .ok other → value = other

/-- What is accepted both from the bytes and as JSON is the same by way of the JSON value. -/
theorem decodeByValue_of_decode (refuses : (schema α).refusesEmbedding = true) {document : List UInt8}
    {value : α} {json : Json} (direct : decode document = .ok value) (parsed : Json.parse document = .ok json) :
    decodeByValue document = .ok value := by
  unfold decode at direct
  split at direct
  · cases direct
  rename_i datum found
  rw [decodeByValue, parsed]
  dsimp only
  rw [decodeJson, Schema.decodeJson_of_decode refuses found parsed]
  exact direct

theorem Lawful.comesBack (lawful : Lawful α) : ComesBack α := by
  have direct (value : α) : decode (Utf8.ofString (encode value)) = .ok value := by
    obtain ⟨datum, writes, back⟩ := lawful.written value
    rw [encode, Json.ofString_compact, decode, writes.decode lawful.shallow]
    dsimp only
    rw [ofDatum, back]
  refine ⟨direct, ?_, ?_⟩
  · intro value
    obtain ⟨datum, writes, back⟩ := lawful.written value
    have parsed := writes.parse lawful.refuses lawful.shallow
    rw [← Json.ofString_compact] at parsed
    exact decodeByValue_of_decode lawful.refuses (direct value) parsed
  · intro document value other found byValue
    have again := byValue
    unfold decodeByValue at again
    split at again
    · cases again
    rename_i json parsed
    rw [decodeByValue_of_decode lawful.refuses found parsed] at byValue
    exact Except.ok.inj byValue

end Document

end EventFeed
