import EventFeed.Proofs.Json.SkippedText
import EventFeed.Proofs.Schema.BothWays

/-!
# Strangers among the members

A record may hold more than its schema asks for, and its members may stand in any order: those that are known
are collected under their keys, and the strangers are passed over. `Holds` says what a document then holds. Only
the numbers of a stranger matter, since they end where the skipper expects it; its depth and its keys do not.
-/

namespace EventFeed.Schema

open Json (moreMemberBytes)

variable {schema : Schema} {datum : Datum} {value : Json} {data : List Datum} {fields : Fields} {name : String}
  {keys : List String} {members document : List (String × Json)} {entries before : List (String × Datum)}
  {fuel depth left : Nat} {first : Bool} {tail : List UInt8}

def own (keys : List String) (document : List (String × Json)) : List (String × Json) :=
  document.filter fun member => keys.contains member.1

/-- A document has these members under the keys, in whatever order, and strangers with whole numbers besides. -/
structure Besides (keys : List String) (members document : List (String × Json)) : Prop where
  same : (own keys document).Perm members
  strangers : ∀ member ∈ document, member.1 ∉ keys → member.2.Whole

/-- There may be no strangers at all. -/
theorem Besides.refl (known : ∀ member ∈ members, member.1 ∈ keys) : Besides keys members members where
  same := by
    rw [own, List.filter_eq_self.2 fun member inside => List.contains_iff_mem.2 (known member inside)]
  strangers member inside unknown := absurd (known member inside) unknown

mutual

/-- The value is the document of a datum under a schema, with strangers where records stand in records. -/
inductive Holds : Schema → Datum → Json → Prop where
  | written {schema : Schema} {datum : Datum} {value : Json} (writes : Writes schema datum value) :
      Holds schema datum value
  | record {name : String} {fields : Fields} {data : List Datum} {members document : List (String × Json)}
      (distinct : (fields.map Prod.fst).Nodup) (all : HoldsFields fields data members)
      (besides : Besides (fields.map Prod.fst) members document) :
      Holds (.record name fields) (.record data) (.object document)

/-- Every member is the document of a field's datum, and the other fields may be missing. -/
inductive HoldsFields : Fields → List Datum → List (String × Json) → Prop where
  | nil : HoldsFields [] [] []
  | present {key : String} {required : Bool} {schema : Schema} {datum : Datum} {value : Json} {fields : Fields}
      {data : List Datum} {members : List (String × Json)} (here : Holds schema datum value)
      (others : HoldsFields fields data members) :
      HoldsFields ((key, required, schema) :: fields) (datum :: data) ((key, value) :: members)
  | missing {key : String} {schema : Schema} {fields : Fields} {data : List Datum}
      {members : List (String × Json)} (others : HoldsFields fields data members) :
      HoldsFields ((key, false, schema) :: fields) (.nothing :: data) members

end

theorem WritesFields.holds (all : WritesFields fields data members) : HoldsFields fields data members := by
  induction fields generalizing data members with
  | nil =>
      cases all
      exact .nil
  | cons field fields ih =>
      cases all with
      | present here others => exact .present (.written here) (ih others)
      | missing others => exact .missing (ih others)

/-- A written record with strangers besides. -/
theorem Writes.holds (writes : Writes (.record name fields) datum (.object members))
    (besides : Besides (fields.map Prod.fst) members document) :
    Holds (.record name fields) datum (.object document) := by
  cases writes with
  | record distinct all => exact .record distinct all.holds besides

/-! ## What is known -/

def ReadAs (schema : Schema) (datum : Datum) (value : Json) : Prop :=
  ∀ {fuel depth : Nat} (tail : List UInt8), 2 * value.bytes.length < fuel → schema.nesting ≤ depth →
    read schema fuel depth (value.bytes ++ tail) = .ok (datum, tail)

/-- There is a field for the member, and among the entries the datum that the member is read as. -/
def Known (fields : Fields) (entries : List (String × Datum)) (member : String × Json) : Prop :=
  ∃ field ∈ fields, field.1 = member.1 ∧
    ∃ datum, collected? member.1 entries = some datum ∧ ReadAs field.2.2 datum member.2

/-- Entries hold what the members are read as, each under its key, and nothing else. The fields are assembled from
them. -/
structure Filed (fields : Fields) (data : List Datum) (members : List (String × Json))
    (entries : List (String × Datum)) : Prop where
  keys : (members.map Prod.fst).Sublist (fields.map Prod.fst)
  known : ∀ member ∈ members, Known fields entries member
  others : ∀ key, key ∉ members.map Prod.fst → collected? key entries = none
  assembled : assemble entries fields = .ok data

theorem Writes.readAs (writes : Writes schema datum value) : ReadAs schema datum value := by
  intro fuel depth tail enough shallow
  exact writes.comesBack tail (by omega) (Nat.le_trans writes.nesting_le shallow)

theorem filed_nil : Filed [] [] [] [] where
  keys := .slnil
  known _ inside := absurd inside List.not_mem_nil
  others _ _ := rfl
  assembled := rfl

theorem assemble_cons_of_notMem {key : String} (absent : key ∉ fields.map Prod.fst) :
    assemble ((key, datum) :: entries) fields = assemble entries fields := by
  refine assemble_congr fun field inside => ?_
  rw [collected?, if_neg]
  rintro rfl
  exact absent (List.mem_map_of_mem inside)

theorem Filed.present {key : String} {required : Bool} (here : ReadAs schema datum value)
    (others : Filed fields data members entries) (new : key ∉ fields.map Prod.fst) :
    Filed ((key, required, schema) :: fields) (datum :: data) ((key, value) :: members)
      ((key, datum) :: entries) where
  keys := others.keys.cons_cons key
  known := by
    rw [List.forall_mem_cons]
    refine ⟨⟨_, List.mem_cons_self, rfl, datum, if_pos rfl, here⟩, ?_⟩
    intro member inside
    obtain ⟨field, among, same, found⟩ := others.known member inside
    refine ⟨field, List.mem_cons_of_mem _ among, same, ?_⟩
    rw [collected?, if_neg]
    · exact found
    · rintro rfl
      exact new (others.keys.mem (List.mem_map_of_mem inside))
  others wanted absent := by
    rw [List.map_cons, List.mem_cons, not_or] at absent
    rw [collected?, if_neg (Ne.symm absent.1)]
    exact others.others wanted absent.2
  assembled := by
    rw [assemble, collected?, if_pos rfl]
    dsimp only
    rw [assemble_cons_of_notMem new, others.assembled]
    rfl

theorem Filed.missing (key : String) (schema : Schema) (others : Filed fields data members entries)
    (new : key ∉ fields.map Prod.fst) :
    Filed ((key, false, schema) :: fields) (.nothing :: data) members entries where
  keys := others.keys.cons key
  known member inside := by
    obtain ⟨field, among, found⟩ := others.known member inside
    exact ⟨field, List.mem_cons_of_mem _ among, found⟩
  others := others.others
  assembled := by
    rw [assemble, others.others key fun inside => new (others.keys.mem inside), others.assembled]
    rfl

/-! ## Strangers passed over -/

theorem readField_of_notMem {key : String} (absent : key ∉ fields.map Prod.fst) :
    readField fields fuel depth key = none := by
  induction fields with
  | nil => rfl
  | cons field fields ih =>
      rw [List.map_cons, List.mem_cons, not_or] at absent
      obtain ⟨other, required, schema⟩ := field
      rw [readField, if_neg (Ne.symm absent.1)]
      exact ih absent.2

theorem own_cons_of_mem {member : String × Json} (known : member.1 ∈ keys) (document : List (String × Json)) :
    own keys (member :: document) = member :: own keys document :=
  List.filter_cons_of_pos (List.contains_iff_mem.2 known)

theorem own_cons_of_notMem {member : String × Json} (unknown : member.1 ∉ keys) (document : List (String × Json)) :
    own keys (member :: document) = own keys document :=
  List.filter_cons_of_neg fun contained => unknown (List.contains_iff_mem.1 contained)

/-- A stranger is passed over. -/
theorem readMembers_stranger {field : String → Option (List UInt8 → Json.Read Datum)} {key : String}
    (unknown : field key = none) (whole : value.Whole)
    (enough : 2 * (membersInside first ((key, value) :: document)).length < left + 1) :
    readMembers field (left + 1) first before (membersInside first ((key, value) :: document) ++ 0x7D :: tail) =
      readMembers field left false before (membersInside false document ++ 0x7D :: tail) := by
  have length := length_membersInside first key value document
  have positive := Json.length_quoted_pos key
  have colon (rest : List UInt8) : Json.readColon (0x3A :: rest) = .ok rest := rfl
  rw [readMembers, nextKey_cons key value document _ (by omega)]
  dsimp only
  rw [unknown]
  dsimp only
  rw [colon]
  dsimp only
  rw [Json.skipValue_bytes whole (by omega) (Json.endsNumber_moreMemberBytes document tail)]
  rfl

/-- A member that is known and new is read and collected. -/
theorem readMembers_known {field : String → Option (List UInt8 → Json.Read Datum)} {key : String}
    (known : field key = some (read schema fuel depth)) (new : collected? key before = none)
    (here : ReadAs schema datum value) (shallow : schema.nesting ≤ depth)
    (enough : 2 * (membersInside first ((key, value) :: document)).length < left + 1) (most : left ≤ fuel) :
    readMembers field (left + 1) first before (membersInside first ((key, value) :: document) ++ 0x7D :: tail) =
      readMembers field left false ((key, datum) :: before) (membersInside false document ++ 0x7D :: tail) := by
  have length := length_membersInside first key value document
  have positive := Json.length_quoted_pos key
  have colon (rest : List UInt8) : Json.readColon (0x3A :: rest) = .ok rest := rfl
  rw [readMembers, nextKey_cons key value document _ (by omega)]
  dsimp only
  rw [known]
  dsimp only
  rw [new, colon]
  dsimp only
  rw [if_neg (by decide), here (moreMemberBytes document ++ 0x7D :: tail) (by omega) shallow]
  rfl

/-- Of an object's members those that are known are collected. -/
theorem exists_readMembers (shallow : ∀ field ∈ fields, field.2.2.nesting ≤ depth)
    (distinct : (fields.map Prod.fst).Nodup)
    (known : ∀ member ∈ own (fields.map Prod.fst) document, Known fields entries member)
    (strangers : ∀ member ∈ document, member.1 ∉ fields.map Prod.fst → member.2.Whole)
    (once : ((own (fields.map Prod.fst) document).map Prod.fst).Nodup)
    (new : ∀ member ∈ own (fields.map Prod.fst) document, collected? member.1 before = none)
    (enough : 2 * (membersInside first document).length < left) (most : left ≤ fuel) :
    ∃ after, readMembers (readField fields fuel depth) left first before
        (membersInside first document ++ 0x7D :: tail) = .ok (after, tail) ∧
      (∀ member ∈ own (fields.map Prod.fst) document, collected? member.1 after = collected? member.1 entries) ∧
      ∀ key, key ∉ (own (fields.map Prod.fst) document).map Prod.fst →
        collected? key after = collected? key before := by
  induction document generalizing before first left with
  | nil =>
      cases left with
      | zero => cases enough
      | succ left =>
          refine ⟨before, ?_, nofun, fun _ _ => rfl⟩
          rw [readMembers, nextKey_nil]
  | cons member document ih =>
      obtain ⟨key, value⟩ := member
      obtain ⟨whole, others⟩ := List.forall_mem_cons.1 strangers
      have length := length_membersInside first key value document
      have positive := Json.length_quoted_pos key
      have rest : membersInside false document = moreMemberBytes document := rfl
      cases left with
      | zero => cases enough
      | succ left =>
          have fewer : 2 * (membersInside false document).length < left := by
            rw [rest]
            omega
          by_cases inside : key ∈ fields.map Prod.fst
          · rw [own_cons_of_mem inside] at known once new ⊢
            rw [List.forall_mem_cons] at known new
            rw [List.map_cons, List.nodup_cons] at once
            obtain ⟨⟨field, among, same, datum, found, here⟩, known⟩ := known
            have reader : readField fields fuel depth key = some (read field.2.2 fuel depth) := by
              rw [← readField_of_mem distinct field among, same]
            have new' : ∀ member ∈ own (fields.map Prod.fst) document,
                collected? member.1 ((key, datum) :: before) = none := by
              intro member later
              rw [collected?, if_neg]
              · exact new.2 member later
              · rintro rfl
                exact once.1 (List.mem_map.2 ⟨member, later, rfl⟩)
            obtain ⟨after, passed, collected, untouched⟩ := ih known others once.2 new' fewer (by omega)
            refine ⟨after, ?_, ?_, ?_⟩
            · rw [readMembers_known reader new.1 here (shallow field among) enough (by omega), passed]
            · rw [List.forall_mem_cons]
              refine ⟨?_, collected⟩
              rw [untouched key once.1, collected?, if_pos rfl, found]
            · intro wanted absent
              rw [List.map_cons, List.mem_cons, not_or] at absent
              rw [untouched wanted absent.2, collected?, if_neg (Ne.symm absent.1)]
          · rw [own_cons_of_notMem inside] at known once new ⊢
            obtain ⟨after, passed, rest⟩ := ih known others once new fewer (by omega)
            refine ⟨after, ?_, rest⟩
            rw [readMembers_stranger (readField_of_notMem inside) (whole inside) enough, passed]

theorem fieldNesting_le {field : String × Bool × Schema} (inside : field ∈ fields) :
    field.2.2.nesting ≤ fieldNesting fields := by
  induction fields with
  | nil => cases inside
  | cons other fields ih =>
      rw [fieldNesting]
      rcases List.mem_cons.1 inside with rfl | later
      · exact Nat.le_max_left _ _
      · exact Nat.le_trans (ih later) (Nat.le_max_right _ _)

/-- A record is read as what its members say, whatever strangers stand among them. -/
theorem readAs_record (distinct : (fields.map Prod.fst).Nodup) (filed : Filed fields data members entries)
    (besides : Besides (fields.map Prod.fst) members document) :
    ReadAs (.record name fields) (.record data) (.object document) := by
  intro fuel depth tail enough shallow
  have length := congrArg List.length (bytes_object document [])
  rw [List.append_nil, List.length_cons, List.length_append] at length
  rw [nesting] at shallow
  have within : ∀ field ∈ fields, field.2.2.nesting ≤ depth - 1 := by
    intro field inside
    have most := fieldNesting_le inside
    omega
  have known : ∀ member ∈ own (fields.map Prod.fst) document, Known fields entries member :=
    fun member inside => filed.known member (besides.same.mem_iff.1 inside)
  have sameKeys := besides.same.map Prod.fst
  have once : ((own (fields.map Prod.fst) document).map Prod.fst).Nodup :=
    sameKeys.nodup_iff.2 (filed.keys.nodup distinct)
  have enough' : 2 * (membersInside true document).length < fuel := by omega
  obtain ⟨after, passed, collected, untouched⟩ : ∃ after, readMembers (readField fields fuel (depth - 1)) fuel true []
      (membersInside true document ++ 0x7D :: tail) = .ok (after, tail) ∧ _ :=
    exists_readMembers within distinct known besides.strangers once (fun _ _ => rfl) enough' (Nat.le_refl _)
  have same : ∀ key, collected? key after = collected? key entries := by
    intro key
    by_cases inside : key ∈ (own (fields.map Prod.fst) document).map Prod.fst
    · obtain ⟨member, among, rfl⟩ := List.mem_map.1 inside
      exact collected member among
    · rw [untouched key inside, filed.others key fun among => inside (sameKeys.mem_iff.2 among)]
      rfl
  have brace (rest : List UInt8) : Json.skipBlanks (0x7B :: rest) = 0x7B :: rest := rfl
  rw [bytes_object, read]
  dsimp only
  rw [brace]
  dsimp only
  rw [if_neg (by decide), if_pos rfl, if_neg (by omega), passed]
  dsimp only
  rw [assemble_congr fun field _ => same field.1, filed.assembled]

/-! ## Documents with strangers -/

mutual

/-- What a document holds is read from its bytes. -/
theorem Holds.readAs {schema : Schema} {datum : Datum} {value : Json} :
    Holds schema datum value → ReadAs schema datum value
  | .written writes => writes.readAs
  | .record distinct all besides =>
      have ⟨_, filed⟩ := all.exists_filed distinct
      readAs_record distinct filed besides

theorem HoldsFields.exists_filed {fields : Fields} {data : List Datum} {members : List (String × Json)} :
    HoldsFields fields data members → (fields.map Prod.fst).Nodup → ∃ entries, Filed fields data members entries
  | .nil, _ => ⟨[], filed_nil⟩
  | .present here others, distinct =>
      have ⟨new, distinct⟩ := List.nodup_cons.1 distinct
      have ⟨_, filed⟩ := others.exists_filed distinct
      ⟨_, filed.present here.readAs new⟩
  | .missing others, distinct =>
      have ⟨new, distinct⟩ := List.nodup_cons.1 distinct
      have ⟨_, filed⟩ := others.exists_filed distinct
      ⟨_, filed.missing _ _ new⟩

end

/-! ## Blanks around a document -/

/-- What is read depends on what stands behind the blanks only. -/
theorem read_of_skipBlanks {input other : List UInt8} (same : Json.skipBlanks other = Json.skipBlanks input) :
    read schema fuel depth other = read schema fuel depth input := by
  cases schema <;> simp only [read, Json.readText, readFlag, readChoice, same]

theorem skipBlanks_blanks_append {blanks : List UInt8} (blank : ∀ b ∈ blanks, Json.isBlank b = true)
    (input : List UInt8) : Json.skipBlanks (blanks ++ input) = Json.skipBlanks input := by
  induction blanks with
  | nil => rfl
  | cons b rest ih =>
      obtain ⟨here, others⟩ := List.forall_mem_cons.1 blank
      rw [List.cons_append, Json.skipBlanks, if_pos here, ih others]

/-- What a document holds is found with blanks around it, too. -/
theorem Holds.decode {front behind : List UInt8} (holds : Holds schema datum value)
    (shallow : schema.nesting ≤ Json.nestingLimit) (blankFront : ∀ b ∈ front, Json.isBlank b = true)
    (blankBehind : ∀ b ∈ behind, Json.isBlank b = true) :
    Schema.decode schema (front ++ (value.bytes ++ behind)) = .ok datum := by
  have enough : 2 * value.bytes.length < Json.fuelFor (front ++ (value.bytes ++ behind)) := by
    simp only [Json.fuelFor, List.length_append]
    omega
  have found := holds.readAs behind enough shallow
  rw [← read_of_skipBlanks (skipBlanks_blanks_append blankFront _)] at found
  have ended : Json.readEnd behind = .ok () := by
    rw [Json.readEnd, Json.skipBlanks_of_blanks blankBehind]
  rw [Schema.decode, found]
  dsimp only
  rw [ended]

end EventFeed.Schema
