import EventFeed.Proofs.Schema.PassedOver
import EventFeed.Schema.FromJson

/-!
# The two readings of a document

A document is read against a schema from its bytes, or from the value that they spell. Where the bytes are
accepted both by the schema and by the JSON reader, both readings find the same. The two look at members in
different orders, so records are compared by what was collected under each key.
-/

namespace EventFeed.Schema

open Json (skipBlanks readString readText readColon readWord embeddedKey insertMember sortedItems sortedMembers)

variable {fuel depth : Nat} {input rest rest' : List UInt8} {datum : Datum} {value : Json}

/-! ## Schemas that no embedding object obeys -/

mutual

/-- No choice and no field is named by the embedding key, and every record has a field that must be there. -/
def refusesEmbedding : Schema → Bool
  | .text => true
  | .flag => true
  | .choice names => !names.contains embeddedKey
  | .optional inner => inner.refusesEmbedding
  | .list item => item.refusesEmbedding
  | .record _ fields => fields.any (fun (_, required, _) => required) && fieldsRefuseEmbedding fields

def fieldsRefuseEmbedding : Fields → Bool
  | [] => true
  | (key, _, schema) :: rest => key ≠ embeddedKey && schema.refusesEmbedding && fieldsRefuseEmbedding rest

end

/-- What is read against the schema is what the value holds that is spelled there. -/
def Agrees (schema : Schema) : Prop :=
  ∀ {fuel depth : Nat} {input rest rest' : List UInt8} {datum : Datum} {value : Json},
    read schema fuel depth input = .ok (datum, rest) → Spells input value rest' →
      rest = rest' ∧ ofJson schema value.sorted = .ok datum

/-! ## Texts, flags and choices -/

theorem agrees_text : Agrees .text := by
  intro fuel depth input rest rest' datum value found spelled
  rw [read] at found
  obtain ⟨text, texted, rfl⟩ := exists_of_map found
  unfold readText at texted
  split at texted
  · cases texted
  rename_i b tail front
  split at texted
  · rename_i quote
    obtain ⟨_, _, rfl, again⟩ := spelled.of_quote (quote ▸ front)
    obtain ⟨rfl, rfl⟩ := Json.readString_unique texted again
    exact ⟨rfl, rfl⟩
  · cases texted

theorem agrees_flag : Agrees .flag := by
  intro fuel depth input rest rest' datum value found spelled
  rw [read] at found
  dsimp only at found
  unfold readFlag at found
  split at found
  · cases found
  rename_i b tail front
  split at found
  · rename_i letter
    obtain ⟨word, rfl⟩ := word_of_map found
    obtain ⟨rfl, again⟩ := spelled.of_true (letter ▸ front)
    exact ⟨Except.ok.inj (word.symm.trans again), rfl⟩
  split at found
  · rename_i letter
    obtain ⟨word, rfl⟩ := word_of_map found
    obtain ⟨rfl, again⟩ := spelled.of_false (letter ▸ front)
    exact ⟨Except.ok.inj (word.symm.trans again), rfl⟩
  · cases found

theorem chooseHere_eq_ok {names : List String} {name : String}
    (chosen : chooseHere names name input = .ok (datum, rest)) :
    choose names name = .ok datum ∧ rest = input := by
  unfold chooseHere at chosen
  split at chosen
  · cases chosen
  · rename_i datum held
    cases chosen
    exact ⟨held, rfl⟩

theorem contains_of_choose {names : List String} {name : String} (chosen : choose names name = .ok datum) :
    names.contains name = true := by
  unfold choose at chosen
  split at chosen
  · assumption
  · cases chosen

theorem readChoiceKey_eq_ok {key : String} {after : List UInt8}
    (read : readChoiceKey fuel input = .ok (key, after)) :
    ∃ tail, skipBlanks input = 0x22 :: tail ∧ readString fuel tail = .ok (key, after) := by
  unfold readChoiceKey at read
  split at read
  · cases read
  rename_i b tail front
  split at read
  · rename_i quote
    exact ⟨tail, quote ▸ front, read⟩
  split at read <;> cases read

theorem readNull_eq_ok {expected : String} (read : readNull fuel expected input = .ok rest) :
    ∃ tail, skipBlanks input = 0x6E :: tail ∧ readWord Json.nullTail tail = .ok rest := by
  unfold readNull at read
  split at read
  · cases read
  rename_i b tail front
  split at read
  · rename_i letter
    exact ⟨tail, letter ▸ front, read⟩
  · cases read

theorem readChoiceEnd_eq_ok {chosen : Datum} (read : readChoiceEnd chosen input = .ok (datum, rest)) :
    chosen = datum ∧ skipBlanks input = 0x7D :: rest := by
  unfold readChoiceEnd at read
  split at read
  · cases read
  rename_i b tail front
  split at read
  · rename_i brace
    cases read
    exact ⟨rfl, brace ▸ front⟩
  · cases read

/-- A member is spelled where its key is read. -/
theorem SpellsMembers.of_key {first : Bool} {tail after : List UInt8} {key : String}
    {members : List (String × Json)} (spelled : SpellsMembers first input members rest)
    (begins : if first then skipBlanks input = 0x22 :: tail
      else ∃ behind, skipBlanks input = 0x2C :: behind ∧ skipBlanks behind = 0x22 :: tail)
    (read : readString fuel tail = .ok (key, after)) :
    ∃ behind value middle more, members = (key, value) :: more ∧ readColon after = .ok behind ∧
      Spells behind value middle ∧ SpellsMembers false middle more rest := by
  cases spelled with
  | close next =>
      have front := skipBlanks_of_closeKey next
      cases first with
      | true => cases begins.symm.trans front
      | false =>
          obtain ⟨_, comma, _⟩ := begins
          cases comma.symm.trans front
  | member next colon here more =>
      obtain ⟨tail', found, begins'⟩ := skipBlanks_of_key next
      have same : tail' = tail := by
        cases first with
        | true =>
            cases begins.symm.trans begins'
            rfl
        | false =>
            obtain ⟨_, comma, quote⟩ := begins
            obtain ⟨_, comma', quote'⟩ := begins'
            cases comma.symm.trans comma'
            cases quote.symm.trans quote'
            rfl
      subst same
      obtain ⟨rfl, rfl⟩ := Json.readString_unique read found
      exact ⟨_, _, _, _, rfl, colon, here, more⟩

/-- No member follows where the object ends. -/
theorem SpellsMembers.of_brace {first : Bool} {members : List (String × Json)}
    (spelled : SpellsMembers first input members rest') (front : skipBlanks input = 0x7D :: rest) :
    members = [] ∧ rest = rest' := by
  cases spelled with
  | close next =>
      cases front.symm.trans (skipBlanks_of_closeKey next)
      exact ⟨rfl, rfl⟩
  | member next =>
      obtain ⟨_, _, begins⟩ := skipBlanks_of_key next
      cases first with
      | true => cases front.symm.trans begins
      | false =>
          obtain ⟨_, comma, _⟩ := begins
          cases front.symm.trans comma

theorem agrees_choice {names : List String} (plain : names.contains embeddedKey = false) :
    Agrees (.choice names) := by
  intro fuel depth input rest rest' datum value found spelled
  rw [read] at found
  unfold readChoice at found
  split at found
  · cases found
  rename_i b tail front
  split at found
  · rename_i quote
    obtain ⟨_, _, rfl, again⟩ := spelled.of_quote (quote ▸ front)
    split at found
    · cases found
    rename_i name after texted
    obtain ⟨rfl, rfl⟩ := Json.readString_unique texted again
    obtain ⟨chosen, rfl⟩ := chooseHere_eq_ok found
    exact ⟨rfl, chosen⟩
  split at found
  · rename_i brace
    split at found
    · cases found
    split at found
    · cases found
    rename_i name after keyed
    split at found
    · cases found
    rename_i chosen after' here
    split at found
    · cases found
    rename_i behind colon
    split at found
    · cases found
    rename_i left nulled
    obtain ⟨held, rfl⟩ := chooseHere_eq_ok here
    obtain ⟨rfl, ended⟩ := readChoiceEnd_eq_ok found
    obtain ⟨_, key, texted⟩ := readChoiceKey_eq_ok keyed
    obtain ⟨_, null, word⟩ := readNull_eq_ok nulled
    rcases spelled.of_brace (brace ▸ front) with ⟨members, rfl, inside⟩ | ⟨text, inside⟩
    · obtain ⟨_, inner, _, more, rfl, colon', here, others⟩ := inside.of_key key texted
      cases colon.symm.trans colon'
      obtain ⟨rfl, word'⟩ := here.of_null null
      cases word.symm.trans word'
      obtain ⟨rfl, rfl⟩ := others.of_brace ended
      refine ⟨rfl, ?_⟩
      simp only [Json.sorted, sortedMembers, insertMember, ofJson, held]
    · obtain ⟨_, _, _, _, same, _⟩ := inside.of_key key texted
      cases same
      rw [contains_of_choose held] at plain
      cases plain
  · cases found

/-! ## What may be missing -/

/-- A `null` that obeys a schema holds nothing. -/
theorem ofJson_null (schema : Schema) (held : ofJson schema .null = .ok datum) : datum = .nothing := by
  cases schema with
  | optional inner =>
      cases held
      rfl
  | _ => cases held

theorem ofJson_optional {inner : Schema} (held : ofJson inner value = .ok datum) :
    ofJson (.optional inner) value = .ok datum := by
  cases value with
  | null => rw [ofJson_null inner held, ofJson]
  | _ => exact held

theorem agrees_optional {inner : Schema} (agrees : Agrees inner) : Agrees (.optional inner) := by
  intro fuel depth input rest rest' datum value found spelled
  rw [read] at found
  dsimp only at found
  split at found
  · rename_i front
    exact absurd front spelled.skipBlanks_ne_nil
  rename_i b tail front
  split at found
  · rename_i letter
    obtain ⟨word, rfl⟩ := word_of_map found
    obtain ⟨rfl, again⟩ := spelled.of_null (letter ▸ front)
    exact ⟨Except.ok.inj (word.symm.trans again), rfl⟩
  · obtain ⟨same, held⟩ := agrees found (spelled.of_skipBlanks (by rw [skipBlanks_of_front front, front]))
    exact ⟨same, ofJson_optional held⟩

/-! ## Lists -/

/-- Where an item begins or the list ends does not depend on who asks. -/
theorem agrees_readItems {read : List UInt8 → Json.Read Datum} {item : Schema}
    (agrees : ∀ {input rest rest' datum value}, read input = .ok (datum, rest) → Spells input value rest' →
      rest = rest' ∧ ofJson item value.sorted = .ok datum)
    {first : Bool} {data : List Datum} {items : List Json}
    (found : readItems read fuel first input = .ok (data, rest))
    (spelled : SpellsItems first input items rest') :
    rest = rest' ∧ eachItem (ofJson item) (sortedItems items) = .ok data := by
  induction fuel generalizing first input items data with
  | zero => cases found
  | succ fuel ih =>
      rw [readItems] at found
      split at found
      · cases found
      · rename_i next
        cases found
        cases spelled with
        | close next' =>
            cases next.symm.trans next'
            exact ⟨rfl, rfl⟩
        | item next' => cases next.symm.trans next'
      · rename_i front next
        split at found
        · cases found
        rename_i datum middle here
        obtain ⟨others, more, rfl⟩ := exists_of_map found
        cases spelled with
        | close next' => cases next.symm.trans next'
        | item next' here' more' =>
            cases next.symm.trans next'
            obtain ⟨rfl, held⟩ := agrees here here'
            obtain ⟨same, all⟩ := ih more more'
            refine ⟨same, ?_⟩
            rw [sortedItems, eachItem, held, all]
            rfl

theorem agrees_list {item : Schema} (agrees : Agrees item) : Agrees (.list item) := by
  intro fuel depth input rest rest' datum value found spelled
  rw [read] at found
  dsimp only at found
  split at found
  · cases found
  rename_i b tail front
  split at found
  · rename_i bracket
    split at found
    · cases found
    obtain ⟨data, inside, rfl⟩ := exists_of_map found
    obtain ⟨items, rfl, inside'⟩ := spelled.of_bracket (bracket ▸ front)
    obtain ⟨same, all⟩ := agrees_readItems (fun found => agrees found) inside inside'
    refine ⟨same, ?_⟩
    rw [Json.sorted, ofJson, all]
    rfl
  · cases found

/-! ## Records given as lists -/

theorem readListEnd_eq_ok (read : readListEnd input = .ok rest) : skipBlanks input = 0x5D :: rest := by
  unfold readListEnd at read
  split at read
  · cases read
  rename_i b tail front
  split at read
  · rename_i bracket
    cases read
    exact bracket ▸ front
  split at read
  · split at read <;> cases read
  · cases read

/-- No item follows where the list ends. -/
theorem SpellsItems.of_bracket {first : Bool} {items : List Json}
    (spelled : SpellsItems first input items rest') (front : skipBlanks input = 0x5D :: rest) :
    items = [] ∧ rest = rest' := by
  cases spelled with
  | close next =>
      cases front.symm.trans (skipBlanks_of_close next)
      exact ⟨rfl, rfl⟩
  | item next =>
      obtain ⟨b, tail, other, _, begins⟩ := skipBlanks_of_item next
      cases first with
      | true =>
          cases front.symm.trans begins
          exact absurd rfl other
      | false =>
          obtain ⟨_, comma, _⟩ := begins
          cases front.symm.trans comma

theorem agrees_readInOrder (expected : String) {fields : Fields} (agrees : ∀ field ∈ fields, Agrees field.2.2)
    {index : Nat} {middle : List UInt8} {data : List Datum} {items : List Json}
    (found : readInOrder expected index fields fuel depth input = .ok (data, middle))
    (ended : readListEnd middle = .ok rest) (spelled : SpellsItems (index = 0) input items rest') :
    rest = rest' ∧ fieldsInOrder expected index fields (sortedItems items) = .ok (data, []) := by
  induction fields generalizing index input data items with
  | nil =>
      rw [readInOrder] at found
      cases found
      obtain ⟨rfl, same⟩ := spelled.of_bracket (readListEnd_eq_ok ended)
      exact ⟨same, rfl⟩
  | cons field fields ih =>
      obtain ⟨key, required, schema⟩ := field
      obtain ⟨agreesFirst, others⟩ := List.forall_mem_cons.1 agrees
      rw [readInOrder] at found
      split at found
      · cases found
      · rename_i after next
        split at found
        · cases found
        rename_i optional
        obtain ⟨data, more, rfl⟩ := exists_of_map found
        obtain ⟨rfl, rfl⟩ := spelled.of_bracket (skipBlanks_of_close next)
        have ends : SpellsItems (index + 1 = 0) (0x5D :: after) [] after := .close rfl
        obtain ⟨same, all⟩ := ih others more ends
        refine ⟨same, ?_⟩
        rw [sortedItems] at all ⊢
        rw [fieldsInOrder, if_neg optional, all]
      · rename_i front next
        split at found
        · cases found
        rename_i datum after here
        obtain ⟨data, more, rfl⟩ := exists_of_map found
        cases spelled with
        | close next' => cases next.symm.trans next'
        | item next' here' more' =>
            cases next.symm.trans next'
            obtain ⟨rfl, held⟩ := agreesFirst here here'
            obtain ⟨same, all⟩ := ih others more more'
            refine ⟨same, ?_⟩
            rw [sortedItems, fieldsInOrder, held]
            dsimp only
            rw [all]

/-! ## Records given as objects -/

section Members

variable {read : String → Json → Option (Except Json.Mismatch Datum)} {key : String}
  {members : List (String × Json)} {collected : List (String × Datum)}

/-- A member that nobody asked for makes no difference. -/
theorem eachMember_insertMember (unasked : ∀ value, read key value = none) :
    eachMember read (insertMember key value members) = eachMember read members := by
  induction members with
  | nil =>
      simp only [insertMember, eachMember, unasked]
  | cons member members ih =>
      obtain ⟨other, held⟩ := member
      rw [insertMember]
      split
      · rw [eachMember, unasked]
      split
      · rfl
      · rw [eachMember, eachMember, ih]

theorem map_eq_ok {α β : Type} {read : Except Json.Mismatch α} {f : α → β} {found : β}
    (mapped : read.map f = .ok found) : ∃ inner, read = .ok inner ∧ f inner = found := by
  cases read with
  | error cause => cases mapped
  | ok inner =>
      cases mapped
      exact ⟨inner, rfl, rfl⟩

theorem eachMember_cons (held : read key value = some (.ok datum)) (members : List (String × Json)) :
    eachMember read ((key, value) :: members) = (eachMember read members).map ((key, datum) :: ·) := by
  rw [eachMember, held]

/-- A member under a key that no other one has is collected under it, wherever it is put in. -/
theorem exists_eachMember_insertMember (all : eachMember read members = .ok collected)
    (first : collected? key collected = none) (held : read key value = some (.ok datum))
    (asked : ∀ value, read key value ≠ none) :
    ∃ collected', eachMember read (insertMember key value members) = .ok collected' ∧
      ∀ wanted, collected? wanted collected' =
        if key = wanted then some datum else collected? wanted collected := by
  induction members generalizing collected with
  | nil => exact ⟨(key, datum) :: collected, by rw [insertMember, eachMember_cons held, all]; rfl, fun _ => rfl⟩
  | cons member members ih =>
      obtain ⟨other, otherValue⟩ := member
      rw [insertMember]
      split
      · exact ⟨(key, datum) :: collected, by rw [eachMember_cons held, all]; rfl, fun _ => rfl⟩
      rw [eachMember] at all
      split
      · -- The key would have been collected before.
        rename_i same
        subst same
        split at all
        · rename_i unasked
          exact absurd unasked (asked _)
        · cases all
        · obtain ⟨inner, _, rfl⟩ := map_eq_ok all
          rw [collected?, if_pos rfl] at first
          cases first
      · rename_i different
        rw [eachMember]
        split at all
        · exact ih all first
        · cases all
        · rename_i otherDatum otherHeld
          obtain ⟨inner, more, rfl⟩ := map_eq_ok all
          rw [collected?, if_neg (Ne.symm different)] at first
          obtain ⟨found, grown, under⟩ := ih more first
          refine ⟨(other, otherDatum) :: found, by rw [grown]; rfl, ?_⟩
          intro wanted
          rw [collected?, collected?, under]
          by_cases mine : key = wanted
          · rw [if_pos mine, if_pos mine, if_neg (fun same => different (mine.trans same.symm))]
          · rw [if_neg mine, if_neg mine]

end Members

/-- Both readings know the same fields. -/
theorem field_none_or_some (fields : Fields) (key : String) :
    ((∀ fuel depth, readField fields fuel depth key = none) ∧ ∀ value, fieldOfJson fields key value = none) ∨
      ∃ field ∈ fields, field.1 = key ∧
        (∀ fuel depth, readField fields fuel depth key = some (read field.2.2 fuel depth)) ∧
        ∀ value, fieldOfJson fields key value = some (ofJson field.2.2 value) := by
  induction fields with
  | nil => exact .inl ⟨fun _ _ => rfl, fun _ => rfl⟩
  | cons field fields ih =>
      obtain ⟨other, required, schema⟩ := field
      by_cases same : other = key
      · refine .inr ⟨_, List.mem_cons_self, same, ?_, ?_⟩
        · intro fuel depth
          rw [readField, if_pos same]
        · intro value
          rw [fieldOfJson, if_pos same]
      · simp only [readField, fieldOfJson, if_neg same]
        refine ih.imp_right ?_
        rintro ⟨field, inside, known⟩
        exact ⟨field, List.mem_cons_of_mem _ inside, known⟩

/-- The members of an object, read one after the other and read in the order of their keys. -/
theorem agrees_readMembers {fields : Fields} (agrees : ∀ field ∈ fields, Agrees field.2.2)
    {left : Nat} {first : Bool} {before after : List (String × Datum)} {members : List (String × Json)}
    (found : readMembers (readField fields fuel depth) left first before input = .ok (after, rest))
    (spelled : SpellsMembers first input members rest') :
    rest = rest' ∧ ∃ collected, eachMember (fieldOfJson fields) (sortedMembers members) = .ok collected ∧
      (∀ key, collected? key after = (collected? key collected).or (collected? key before)) ∧
      ∀ key, (collected? key before).isSome → collected? key collected = none := by
  induction left generalizing first before input members with
  | zero => cases found
  | succ left ih =>
      rw [readMembers] at found
      split at found
      · cases found
      · rename_i next
        cases found
        obtain ⟨rfl, same⟩ := spelled.of_brace (skipBlanks_of_closeKey next)
        exact ⟨same, [], rfl, fun _ => rfl, fun _ _ => rfl⟩
      · rename_i key behind next
        obtain ⟨_, texted, begins⟩ := skipBlanks_of_key next
        obtain ⟨front, value, middle, more, rfl, colon, here, others⟩ := spelled.of_key begins texted
        rcases field_none_or_some fields key with ⟨unknown, unasked⟩ | ⟨field, inside, rfl, known, asked⟩
        · rw [unknown, colon] at found
          dsimp only at found
          split at found
          · cases found
          rename_i skipped
          obtain rfl := here.skipValue skipped
          rw [sortedMembers, eachMember_insertMember unasked]
          exact ih found others
        · rw [known, colon] at found
          dsimp only at found
          split at found
          · cases found
          rename_i unseen
          split at found
          · cases found
          rename_i datum rest'' read
          obtain ⟨rfl, held⟩ := agrees field inside read here
          obtain ⟨same, collected, all, under, once⟩ := ih found others
          have new : collected? field.1 collected = none := once field.1 (by rw [collected?, if_pos rfl]; rfl)
          obtain ⟨collected', all', under'⟩ := exists_eachMember_insertMember all new
            ((asked value.sorted).trans (congrArg some held)) (fun value => by rw [asked]; exact nofun)
          refine ⟨same, collected', all', ?_, ?_⟩
          · intro key
            rw [under, under', collected?]
            by_cases mine : field.1 = key
            · rw [if_pos mine, if_pos mine, ← mine, new]
              rfl
            · rw [if_neg mine, if_neg mine]
          · intro key seen
            have other : field.1 ≠ key := by
              rintro rfl
              exact unseen seen
            rw [under', if_neg other]
            refine once key ?_
            rw [collected?, if_neg other]
            exact seen

theorem assemble_congr {collected other : List (String × Datum)} {fields : Fields}
    (same : ∀ field ∈ fields, collected? field.1 collected = collected? field.1 other) :
    assemble collected fields = assemble other fields := by
  induction fields with
  | nil => rfl
  | cons field fields ih =>
      obtain ⟨key, required, schema⟩ := field
      obtain ⟨here, others⟩ := List.forall_mem_cons.1 same
      rw [assemble, assemble, here, ih others]

theorem exists_mismatch_of_none {collected : List (String × Datum)}
    (none : ∀ key, collected? key collected = none) {fields : Fields}
    (required : fields.any (fun (_, required, _) => required) = true) :
    ∃ cause, assemble collected fields = .error cause := by
  induction fields with
  | nil => cases required
  | cons field fields ih =>
      obtain ⟨key, needed, schema⟩ := field
      rw [assemble, none]
      cases needed with
      | true => exact ⟨_, rfl⟩
      | false =>
          obtain ⟨cause, missing⟩ := ih required
          rw [missing]
          exact ⟨cause, rfl⟩

theorem agrees_record (name : String) {fields : Fields} (agrees : ∀ field ∈ fields, Agrees field.2.2)
    (required : fields.any (fun (_, required, _) => required) = true)
    (unnamed : ∀ field ∈ fields, field.1 ≠ embeddedKey) : Agrees (.record name fields) := by
  intro fuel depth input rest rest' datum value found spelled
  rw [read] at found
  dsimp only at found
  split at found
  · cases found
  rename_i b tail front
  split at found
  · rename_i bracket
    split at found
    · cases found
    split at found
    · cases found
    rename_i data middle inOrder
    obtain ⟨ended, rfl⟩ := word_of_map found
    obtain ⟨items, rfl, inside⟩ := spelled.of_bracket (bracket ▸ front)
    obtain ⟨same, all⟩ := agrees_readInOrder _ agrees inOrder ended inside
    refine ⟨same, ?_⟩
    rw [Json.sorted, ofJson, all]
  split at found
  · rename_i brace
    split at found
    · cases found
    split at found
    · cases found
    rename_i after middle inside
    split at found
    · cases found
    rename_i data assembled
    cases found
    rcases spelled.of_brace (brace ▸ front) with ⟨members, rfl, inside'⟩ | ⟨text, inside'⟩
    · obtain ⟨same, collected, all, under, _⟩ := agrees_readMembers agrees inside inside'
      refine ⟨same, ?_⟩
      rw [Json.sorted, ofJson, all]
      dsimp only
      have same : ∀ key, collected? key collected = collected? key after := by
        intro key
        rw [under, collected?, Option.or_none]
      rw [assemble_congr fun field _ => same field.1, assembled]
      rfl
    · -- Nothing is collected from an embedding object, so a field is missing.
      obtain ⟨_, collected, all, under, _⟩ := agrees_readMembers agrees inside inside'
      have unasked : ∀ value, fieldOfJson fields embeddedKey value = none := by
        rcases field_none_or_some fields embeddedKey with ⟨_, unasked⟩ | ⟨field, present, same, _⟩
        · exact unasked
        · exact absurd same (unnamed field present)
      rw [sortedMembers, eachMember_insertMember unasked] at all
      cases all
      obtain ⟨cause, missing⟩ := exists_mismatch_of_none (fun key => by rw [under]; rfl) required
      rw [missing] at assembled
      cases assembled
  · cases found

/-! ## All schemas -/

mutual

/-- Where a document is accepted by both readings, they agree. -/
theorem agrees : (schema : Schema) → schema.refusesEmbedding = true → Agrees schema
  | .text, _ => agrees_text
  | .flag, _ => agrees_flag
  | .choice _, refuses => agrees_choice (by simpa [refusesEmbedding] using refuses)
  | .optional inner, refuses => agrees_optional (agrees inner refuses)
  | .list item, refuses => agrees_list (agrees item refuses)
  | .record name fields, refuses => by
      rw [refusesEmbedding, Bool.and_eq_true] at refuses
      have both := fieldsAgree fields refuses.2
      exact agrees_record name (fun field inside => (both field inside).2) refuses.1
        (fun field inside => (both field inside).1)

theorem fieldsAgree : (fields : Fields) → fieldsRefuseEmbedding fields = true →
    ∀ field ∈ fields, field.1 ≠ embeddedKey ∧ Agrees field.2.2
  | [], _ => nofun
  | (key, required, schema) :: rest, refuses => by
      simp only [fieldsRefuseEmbedding, Bool.and_eq_true, decide_eq_true_eq] at refuses
      exact List.forall_mem_cons.2 ⟨⟨refuses.1.1, agrees schema refuses.1.2⟩, fieldsAgree rest refuses.2⟩

end

end EventFeed.Schema
