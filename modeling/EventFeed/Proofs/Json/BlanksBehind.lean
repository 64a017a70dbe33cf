import EventFeed.Proofs.Json.Echoes

/-!
# Blanks behind a document

Blanks behind a document change nothing: what is read without them is read with them, and what is refused without
them is refused with them, though perhaps for another reason. Each reader is set beside itself with blanks at the
end of its bytes. Both have fuel enough for their bytes, and how much more does not matter, so that no reader runs
out of it on one side only.
-/

namespace EventFeed.Json

variable {blanks input rest : List UInt8} {fuel fuel' depth spare spare' : Nat}

/-! ## Between values -/

section

variable (blank : ∀ b ∈ blanks, isBlank b = true)
include blank

theorem echoes_readColon (input : List UInt8) :
    EchoesRest blanks input.length (readColon input) (readColon (input ++ blanks)) := by
  unfold readColon
  refine skipBlanks_elim blank input (.refused _ _) fun b rest shorter => ?_
  exact .ite (fun _ => .read ⟨rfl, shorter⟩) fun _ => .refused _ _

theorem echoes_readLoneClose (input : List UInt8) :
    EchoesRest blanks input.length (readLoneClose input) (readLoneClose (input ++ blanks)) := by
  unfold readLoneClose
  refine skipBlanks_elim blank input (.refused _ _) fun b rest shorter => ?_
  exact .ite (fun _ => .read ⟨rfl, shorter⟩) fun _ => .refused _ _

theorem alike_readEnd (input : List UInt8) : Alike Eq (readEnd input) (readEnd (input ++ blanks)) := by
  unfold readEnd
  exact skipBlanks_elim blank input (.read rfl) fun _ _ _ => .refused _ _

theorem echoes_readText (expected : String) (enough : input.length ≤ fuel)
    (enough' : input.length + blanks.length ≤ fuel') :
    Echoes blanks input.length (readText fuel expected input) (readText fuel' expected (input ++ blanks)) := by
  unfold readText
  refine skipBlanks_elim blank input (.refused _ _) fun b rest shorter => ?_
  refine .ite (fun _ => ?_) fun _ => .refused _ _
  exact (echoes_readString blank (by omega) (by omega)).mono (Nat.le_of_lt shorter)

end

theorem length_of_readText {expected text : String} (read : readText fuel expected input = .ok (text, rest)) :
    (Utf8.ofString text).length + rest.length < input.length := by
  unfold readText at read
  split at read
  · cases read
  rename_i b behind front
  have shorter := length_of_front front
  split at read
  · have inside := length_of_readString read
    omega
  · cases read

/-! ## Fuel -/

/-- There is fuel for every byte twice, and a little to spare, both without and with the blanks. -/
structure Enough (spare : Nat) (input blanks : List UInt8) (fuel fuel' : Nat) : Prop where
  without : 2 * input.length + spare < fuel
  beside : 2 * (input.length + blanks.length) + spare < fuel'

namespace Enough

theorem next (enough : Enough spare input blanks (fuel + 1) (fuel' + 1))
    (less : 2 * rest.length + spare' < 2 * input.length + spare) : Enough spare' rest blanks fuel fuel' := by
  obtain ⟨without, beside⟩ := enough
  constructor <;> omega

/-- A document in a text needs no more than the text does. -/
theorem apart (enough : Enough 1 input blanks (fuel + 1) (fuel' + 1)) (shorter : rest.length < input.length) :
    Enough 0 rest [] fuel fuel' := by
  obtain ⟨without, beside⟩ := enough
  constructor
  · omega
  · rw [List.length_nil]
    omega

theorem bytes (enough : Enough spare input blanks (fuel + 1) (fuel' + 1)) (less : rest.length ≤ input.length) :
    rest.length ≤ fuel ∧ rest.length + blanks.length ≤ fuel' := by
  obtain ⟨without, beside⟩ := enough
  constructor <;> omega

end Enough

/-! ## Readers -/

/-- With so much fuel, every reader does in front of blanks what it does at the end of a document. -/
structure EchoesWithin (fuel : Nat) : Prop where
  value : ∀ {fuel' depth input blanks}, (∀ b ∈ blanks, isBlank b = true) → Enough 0 input blanks fuel fuel' →
    Echoes blanks input.length (readValue fuel depth input) (readValue fuel' depth (input ++ blanks))
  items : ∀ {fuel' depth input blanks}, (∀ b ∈ blanks, isBlank b = true) → Enough 1 input blanks fuel fuel' →
    Echoes blanks input.length (readItems fuel depth input) (readItems fuel' depth (input ++ blanks))
  moreItems : ∀ {fuel' depth input blanks}, (∀ b ∈ blanks, isBlank b = true) →
    Enough 1 input blanks fuel fuel' →
      Echoes blanks input.length (readMoreItems fuel depth input) (readMoreItems fuel' depth (input ++ blanks))
  object : ∀ {fuel' depth input blanks}, (∀ b ∈ blanks, isBlank b = true) → Enough 1 input blanks fuel fuel' →
    Echoes blanks input.length (readObject fuel depth input) (readObject fuel' depth (input ++ blanks))
  member : ∀ {fuel' depth key input blanks}, (∀ b ∈ blanks, isBlank b = true) →
    Enough 1 input blanks fuel fuel' →
      Echoes blanks input.length (readMember fuel depth key input)
        (readMember fuel' depth key (input ++ blanks))
  moreMembers : ∀ {fuel' depth input blanks}, (∀ b ∈ blanks, isBlank b = true) →
    Enough 1 input blanks fuel fuel' →
      Echoes blanks input.length (readMoreMembers fuel depth input)
        (readMoreMembers fuel' depth (input ++ blanks))
  embedded : ∀ {fuel' input blanks}, (∀ b ∈ blanks, isBlank b = true) → Enough 1 input blanks fuel fuel' →
    Echoes blanks input.length (readEmbedded fuel input) (readEmbedded fuel' (input ++ blanks))

theorem echoesWithin_zero : EchoesWithin 0 where
  value _ enough := nomatch enough.without
  items _ enough := nomatch enough.without
  moreItems _ enough := nomatch enough.without
  object _ enough := nomatch enough.without
  member _ enough := nomatch enough.without
  moreMembers _ enough := nomatch enough.without
  embedded _ enough := nomatch enough.without

section

variable (below : EchoesWithin fuel) (blank : ∀ b ∈ blanks, isBlank b = true)
include below blank

theorem echoes_readValue (enough : Enough 0 input blanks (fuel + 1) (fuel' + 1)) :
    Echoes blanks input.length (readValue (fuel + 1) depth input)
      (readValue (fuel' + 1) depth (input ++ blanks)) := by
  rw [readValue, readValue]
  refine skipBlanks_elim blank input (.refused _ _) fun b rest shorter => ?_
  have word {tail : List UInt8} (visible : tail.all (!isBlank ·) = true) (value : Json) :
      Echoes blanks input.length ((readWord tail rest).map (value, ·))
        ((readWord tail (rest ++ blanks)).map (value, ·)) :=
    (echoes_readWord blank visible rest).map fun found found' agree =>
      ⟨Prod.ext rfl agree.1, Nat.lt_of_lt_of_le agree.2 shorter⟩
  obtain ⟨bytes, bytes'⟩ := enough.bytes (Nat.le_of_lt shorter)
  refine .ite (fun _ => word rfl _) fun _ => .ite (fun _ => word rfl _) fun _ =>
    .ite (fun _ => word rfl _) fun _ => .ite (fun _ => ?_) fun _ => .ite (fun _ => ?_) fun _ =>
    .ite (fun _ => ?_) fun _ => .ite (fun _ => ?_) fun _ => .ite (fun _ => ?_) fun _ => .refused _ _
  · exact ((echoes_readNumber blank true rest).map Json.number).mono (Nat.le_of_lt shorter)
  · exact ((echoes_readNumber blank false (b :: rest)).map Json.number).mono shorter
  · exact ((echoes_readString blank bytes bytes').map Json.string).mono (Nat.le_of_lt shorter)
  · cases depth with
    | zero => exact .refused _ _
    | succ depth =>
        exact ((below.items blank (enough.next (by omega))).map Json.array).mono (Nat.le_of_lt shorter)
  · cases depth with
    | zero => exact .refused _ _
    | succ depth => exact (below.object blank (enough.next (by omega))).mono (Nat.le_of_lt shorter)

/-- An item, and the items that follow it. -/
theorem echoes_thenMoreItems (enough : Enough 1 input blanks (fuel + 1) (fuel' + 1))
    (less : rest.length ≤ input.length) :
    Echoes blanks input.length
      (match readValue fuel depth rest with
        | .error fault => .error fault
        | .ok (item, rest) =>
            match readMoreItems fuel depth rest with
            | .error fault => .error fault
            | .ok (items, rest) => .ok (item :: items, rest))
      (match readValue fuel' depth (rest ++ blanks) with
        | .error fault => .error fault
        | .ok (item, rest) =>
            match readMoreItems fuel' depth rest with
            | .error fault => .error fault
            | .ok (items, rest) => .ok (item :: items, rest)) := by
  have first : Echoes blanks rest.length (readValue fuel depth rest) (readValue fuel' depth (rest ++ blanks)) :=
    below.value blank (enough.next (by omega))
  refine first.elim (fun _ _ => .refused _ _) fun item behind _ shorter => ?_
  have others : Echoes blanks behind.length (readMoreItems fuel depth behind)
      (readMoreItems fuel' depth (behind ++ blanks)) :=
    below.moreItems blank (enough.next (by omega))
  dsimp only
  exact others.elim (fun _ _ => .refused _ _) fun items after _ least => Echoes.found _ (by omega)

theorem echoes_readItems (enough : Enough 1 input blanks (fuel + 1) (fuel' + 1)) :
    Echoes blanks input.length (readItems (fuel + 1) depth input)
      (readItems (fuel' + 1) depth (input ++ blanks)) := by
  rw [readItems, readItems]
  refine skipBlanks_elim blank input (.refused _ _) fun b rest shorter => ?_
  refine .ite (fun _ => Echoes.found _ shorter) fun _ => ?_
  exact echoes_thenMoreItems below blank enough shorter

theorem echoes_readMoreItems (enough : Enough 1 input blanks (fuel + 1) (fuel' + 1)) :
    Echoes blanks input.length (readMoreItems (fuel + 1) depth input)
      (readMoreItems (fuel' + 1) depth (input ++ blanks)) := by
  rw [readMoreItems, readMoreItems]
  refine skipBlanks_elim blank input (.refused _ _) fun b rest shorter => ?_
  refine .ite (fun _ => Echoes.found _ shorter) fun _ => .ite (fun _ => ?_) fun _ => .refused _ _
  refine skipBlanks_elim blank rest (.refused _ _) fun c after less => ?_
  refine .ite (fun _ => .refused _ _) fun _ => ?_
  exact echoes_thenMoreItems below blank enough (by rw [List.length_cons]; omega)

theorem echoes_readMember {key : String} (enough : Enough 1 input blanks (fuel + 1) (fuel' + 1)) :
    Echoes blanks input.length (readMember (fuel + 1) depth key input)
      (readMember (fuel' + 1) depth key (input ++ blanks)) := by
  rw [readMember, readMember]
  refine (echoes_readColon blank input).elim (fun _ _ => .refused _ _) fun rest shorter => ?_
  have first : Echoes blanks rest.length (readValue fuel depth rest) (readValue fuel' depth (rest ++ blanks)) :=
    below.value blank (enough.next (by omega))
  dsimp only
  refine first.elim (fun _ _ => .refused _ _) fun value behind _ less => ?_
  have others : Echoes blanks behind.length (readMoreMembers fuel depth behind)
      (readMoreMembers fuel' depth (behind ++ blanks)) :=
    below.moreMembers blank (enough.next (by omega))
  dsimp only
  exact others.elim (fun _ _ => .refused _ _) fun members after _ least => Echoes.found _ (by omega)

theorem echoes_readMoreMembers (enough : Enough 1 input blanks (fuel + 1) (fuel' + 1)) :
    Echoes blanks input.length (readMoreMembers (fuel + 1) depth input)
      (readMoreMembers (fuel' + 1) depth (input ++ blanks)) := by
  rw [readMoreMembers, readMoreMembers]
  refine skipBlanks_elim blank input (.refused _ _) fun b rest shorter => ?_
  refine .ite (fun _ => Echoes.found _ shorter) fun _ => .ite (fun _ => ?_) fun _ => .refused _ _
  refine skipBlanks_elim blank rest (.refused _ _) fun c after less => ?_
  obtain ⟨bytes, bytes'⟩ := enough.bytes (show after.length ≤ input.length by omega)
  refine .ite (fun _ => ?_) fun _ => .ite (fun _ => .refused _ _) fun _ => .refused _ _
  refine (echoes_readString blank bytes bytes').elim (fun _ _ => .refused _ _) fun key beyond _ least => ?_
  exact (below.member blank (enough.next (by omega))).mono (by omega)

theorem echoes_readObject (enough : Enough 1 input blanks (fuel + 1) (fuel' + 1)) :
    Echoes blanks input.length (readObject (fuel + 1) depth input)
      (readObject (fuel' + 1) depth (input ++ blanks)) := by
  rw [readObject, readObject]
  refine skipBlanks_elim blank input (.refused _ _) fun b rest shorter => ?_
  obtain ⟨bytes, bytes'⟩ := enough.bytes (Nat.le_of_lt shorter)
  refine .ite (fun _ => Echoes.found _ shorter) fun _ => .ite (fun _ => ?_) fun _ => .refused _ _
  refine (echoes_readString blank bytes bytes').elim (fun _ _ => .refused _ _) fun key behind _ less => ?_
  refine .ite (fun _ => ?_) fun _ => ?_
  · exact (below.embedded blank (enough.next (by omega))).mono (by omega)
  · have members : Echoes blanks behind.length (readMember fuel depth key behind)
        (readMember fuel' depth key (behind ++ blanks)) :=
      below.member blank (enough.next (by omega))
    exact members.elim (fun _ _ => .refused _ _) fun members after _ least => Echoes.found _ (by omega)

/-- The document in the text of an object's only member is the same on both sides; only the fuel for it is not. -/
theorem echoes_readEmbedded (enough : Enough 1 input blanks (fuel + 1) (fuel' + 1)) :
    Echoes blanks input.length (readEmbedded (fuel + 1) input)
      (readEmbedded (fuel' + 1) (input ++ blanks)) := by
  rw [readEmbedded, readEmbedded]
  refine (echoes_readColon blank input).elim (fun _ _ => .refused _ _) fun rest shorter => ?_
  obtain ⟨bytes, bytes'⟩ := enough.bytes (Nat.le_of_lt shorter)
  dsimp only
  refine (echoes_readText blank "raw value" bytes bytes').elim (fun _ _ => .refused _ _)
    fun text behind read less => ?_
  have smaller := length_of_readText read
  have inner : Echoes [] (Utf8.ofString text).length (readValue fuel nestingLimit (Utf8.ofString text))
      (readValue fuel' nestingLimit (Utf8.ofString text ++ [])) :=
    below.value (List.forall_mem_nil _) (enough.apart (by omega))
  rw [List.append_nil] at inner
  dsimp only
  refine inner.elim (fun _ _ => .refused _ _) fun value after _ _ => ?_
  rw [List.append_nil]
  dsimp only
  cases readEnd after with
  | error fault => exact .refused _ _
  | ok =>
      exact (echoes_readLoneClose blank behind).map fun found found' agree =>
        ⟨Prod.ext rfl agree.1, Nat.lt_trans agree.2 (Nat.lt_trans less shorter)⟩

end

theorem echoesWithin (fuel : Nat) : EchoesWithin fuel := by
  induction fuel with
  | zero => exact echoesWithin_zero
  | succ fuel below =>
      have more {spare fuel' : Nat} {input blanks : List UInt8}
          (enough : Enough spare input blanks (fuel + 1) fuel') : ∃ less, fuel' = less + 1 :=
        ⟨fuel' - 1, by have := enough.beside; omega⟩
      constructor
      · intro fuel' depth input blanks blank enough
        obtain ⟨fuel', rfl⟩ := more enough
        exact echoes_readValue below blank enough
      · intro fuel' depth input blanks blank enough
        obtain ⟨fuel', rfl⟩ := more enough
        exact echoes_readItems below blank enough
      · intro fuel' depth input blanks blank enough
        obtain ⟨fuel', rfl⟩ := more enough
        exact echoes_readMoreItems below blank enough
      · intro fuel' depth input blanks blank enough
        obtain ⟨fuel', rfl⟩ := more enough
        exact echoes_readObject below blank enough
      · intro fuel' depth key input blanks blank enough
        obtain ⟨fuel', rfl⟩ := more enough
        exact echoes_readMember below blank enough
      · intro fuel' depth input blanks blank enough
        obtain ⟨fuel', rfl⟩ := more enough
        exact echoes_readMoreMembers below blank enough
      · intro fuel' input blanks blank enough
        obtain ⟨fuel', rfl⟩ := more enough
        exact echoes_readEmbedded below blank enough

/-! ## Documents -/

/-- What is read of a document, and whether it is refused, does not depend on blanks behind it. -/
theorem parse_append_blanks (blank : ∀ b ∈ blanks, isBlank b = true) (document : List UInt8) :
    (∃ value, parse document = .ok value ∧ parse (document ++ blanks) = .ok value) ∨
      ∃ error error', parse document = .error error ∧ parse (document ++ blanks) = .error error' := by
  have enough : Enough 0 document blanks (fuelFor document) (fuelFor (document ++ blanks)) := by
    unfold fuelFor
    rw [List.length_append]
    constructor <;> omega
  have whole : Echoes blanks document.length (readValue (fuelFor document) nestingLimit document)
      (readValue (fuelFor (document ++ blanks)) nestingLimit (document ++ blanks)) :=
    (echoesWithin _).value blank enough
  unfold parse readDocument
  refine whole.elim (fun _ _ => .inr ⟨_, _, rfl, rfl⟩) fun value rest _ _ => ?_
  have ended := alike_readEnd blank rest
  dsimp only
  generalize readEnd rest = ending at ended
  generalize readEnd (rest ++ blanks) = ending' at ended
  cases ended with
  | refused fault fault' => exact .inr ⟨_, _, rfl, rfl⟩
  | read _ => exact .inl ⟨_, rfl, rfl⟩

end EventFeed.Json
