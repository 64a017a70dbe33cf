import EventFeed.Json.Reader
import EventFeed.Proofs.Json.Pieces

/-!
# The parts of a document

What is said about a document at every depth is said about its parts: the document itself and all that
stands in it. An object whose first key is the embedding key is never what a reader gives back, since it
stands for another document there; only sorting can bring that key to the front, and then it has company.
-/

namespace EventFeed.Json

variable {holds : Json → Prop} {items : List Json} {members : List (String × Json)} {value : Json}
  {input rest : List UInt8} {fuel depth : Nat}

mutual

/-- The document itself and everything in it. -/
def parts : Json → List Json
  | .null => [.null]
  | .bool value => [.bool value]
  | .number value => [.number value]
  | .string text => [.string text]
  | .array items => .array items :: itemParts items
  | .object members => .object members :: memberParts members

def itemParts : List Json → List Json
  | [] => []
  | item :: rest => item.parts ++ itemParts rest

def memberParts : List (String × Json) → List Json
  | [] => []
  | (_, value) :: rest => value.parts ++ memberParts rest

end

mutual

def nesting : Json → Nat
  | .null => 0
  | .bool _ => 0
  | .number _ => 0
  | .string _ => 0
  | .array items => itemNesting items + 1
  | .object members => memberNesting members + 1

def itemNesting : List Json → Nat
  | [] => 0
  | item :: rest => max item.nesting (itemNesting rest)

def memberNesting : List (String × Json) → Nat
  | [] => 0
  | (_, value) :: rest => max value.nesting (memberNesting rest)

end

theorem itemNesting_le (items : List Json) (depth : Nat) :
    itemNesting items ≤ depth ↔ ∀ item ∈ items, item.nesting ≤ depth := by
  induction items with
  | nil => simp [itemNesting]
  | cons item rest hypothesis => rw [itemNesting, Nat.max_le, hypothesis, List.forall_mem_cons]

theorem memberNesting_le (members : List (String × Json)) (depth : Nat) :
    memberNesting members ≤ depth ↔ ∀ member ∈ members, member.2.nesting ≤ depth := by
  induction members with
  | nil => simp [memberNesting]
  | cons member rest hypothesis => rw [memberNesting, Nat.max_le, hypothesis, List.forall_mem_cons]

/-! ## What holds of every part -/

/-- Every part of a document has a property. -/
def Throughout (holds : Json → Prop) (document : Json) : Prop :=
  ∀ part ∈ document.parts, holds part

instance [DecidablePred holds] (document : Json) : Decidable (document.Throughout holds) :=
  inferInstanceAs (Decidable (∀ part ∈ document.parts, holds part))

/-- What has no other parts has a property throughout when it has it. -/
theorem throughout_leaf {document : Json} (leaf : document.parts = [document]) (here : holds document) :
    document.Throughout holds := by
  intro part inside
  rw [leaf, List.mem_singleton] at inside
  rw [inside]
  exact here

theorem forall_mem_itemParts :
    (∀ part ∈ itemParts items, holds part) ↔ ∀ item ∈ items, item.Throughout holds := by
  induction items with
  | nil => simp [itemParts]
  | cons item rest hypothesis =>
      rw [itemParts, List.forall_mem_append, hypothesis, List.forall_mem_cons, Throughout]

theorem forall_mem_memberParts :
    (∀ part ∈ memberParts members, holds part) ↔ ∀ member ∈ members, member.2.Throughout holds := by
  induction members with
  | nil => simp [memberParts]
  | cons member rest hypothesis =>
      rw [memberParts, List.forall_mem_append, hypothesis, List.forall_mem_cons, Throughout]

theorem throughout_array :
    (array items).Throughout holds ↔ holds (.array items) ∧ ∀ item ∈ items, item.Throughout holds := by
  rw [Throughout, parts, List.forall_mem_cons, forall_mem_itemParts]

theorem throughout_object :
    (object members).Throughout holds ↔
      holds (.object members) ∧ ∀ member ∈ members, member.2.Throughout holds := by
  rw [Throughout, parts, List.forall_mem_cons, forall_mem_memberParts]

def WholeHere : Json → Prop
  | .number value => IsWhole value
  | _ => True

instance : DecidablePred WholeHere
  | .number value => inferInstanceAs (Decidable (IsWhole value))
  | .null => .isTrue trivial
  | .bool _ => .isTrue trivial
  | .string _ => .isTrue trivial
  | .array _ => .isTrue trivial
  | .object _ => .isTrue trivial

/-- All numbers of the document are integers of the 64-bit ranges. -/
def Whole (document : Json) : Prop :=
  document.Throughout WholeHere

def UnembeddedHere : Json → Prop
  | .object ((key, _) :: _) => key ≠ embeddedKey
  | _ => True

instance : DecidablePred UnembeddedHere
  | .object ((key, _) :: _) => inferInstanceAs (Decidable (key ≠ embeddedKey))
  | .object [] => .isTrue trivial
  | .number _ => .isTrue trivial
  | .null => .isTrue trivial
  | .bool _ => .isTrue trivial
  | .string _ => .isTrue trivial
  | .array _ => .isTrue trivial

/-- No object of the document begins with the embedding key. -/
def Unembedded (document : Json) : Prop :=
  document.Throughout UnembeddedHere

instance (document : Json) : Decidable document.Whole :=
  inferInstanceAs (Decidable (document.Throughout WholeHere))

instance (document : Json) : Decidable document.Unembedded :=
  inferInstanceAs (Decidable (document.Throughout UnembeddedHere))

def AccompaniedHere : Json → Prop
  | .object [(key, _)] => key ≠ embeddedKey
  | _ => True

/-- No object of the document holds nothing but the embedding key. -/
def Accompanied (document : Json) : Prop :=
  document.Throughout AccompaniedHere

/-! ## Sorting -/

theorem exists_mem_insertMember (key : String) (value : Json) (members : List (String × Json)) :
    ∃ held, (key, held) ∈ insertMember key value members := by
  induction members with
  | nil => exact ⟨value, List.mem_cons_self⟩
  | cons first rest hypothesis =>
      obtain ⟨other, held⟩ := first
      rw [insertMember]
      split
      · exact ⟨value, List.mem_cons_self⟩
      · split
        · rename_i same
          exact ⟨held, by rw [same]; exact List.mem_cons_self⟩
        · obtain ⟨kept, inside⟩ := hypothesis
          exact ⟨kept, List.mem_cons_of_mem _ inside⟩

/-- An object that did not begin with the embedding key has another key still when it is sorted. -/
theorem accompaniedHere_sorted (unembedded : UnembeddedHere (.object members)) :
    AccompaniedHere (.object (sortedMembers members)) := by
  cases members with
  | nil => trivial
  | cons first rest =>
      obtain ⟨key, value⟩ := first
      rw [sortedMembers]
      obtain ⟨held, inside⟩ := exists_mem_insertMember key value.sorted (sortedMembers rest)
      unfold AccompaniedHere
      split
      · rename_i other _ alone
        rw [Json.object.injEq] at alone
        rw [alone, List.mem_singleton, Prod.mk.injEq] at inside
        rw [← inside.1]
        exact unembedded
      · trivial

mutual

theorem accompanied_sorted : (document : Json) → document.Unembedded → document.sorted.Accompanied
  | .null, _ => throughout_leaf rfl trivial
  | .bool _, _ => throughout_leaf rfl trivial
  | .number _, _ => throughout_leaf rfl trivial
  | .string _, _ => throughout_leaf rfl trivial
  | .array items, unembedded =>
      throughout_array.2 ⟨trivial, accompanied_sortedItems items (throughout_array.1 unembedded).2⟩
  | .object members, unembedded =>
      throughout_object.2 ⟨accompaniedHere_sorted (throughout_object.1 unembedded).1,
        accompanied_sortedMembers members (throughout_object.1 unembedded).2⟩

theorem accompanied_sortedItems : (items : List Json) → (∀ item ∈ items, item.Unembedded) →
    ∀ item ∈ sortedItems items, item.Accompanied
  | [], _ => by simp [sortedItems]
  | item :: rest, unembedded => by
      rw [List.forall_mem_cons] at unembedded
      rw [sortedItems, List.forall_mem_cons]
      exact ⟨accompanied_sorted item unembedded.1, accompanied_sortedItems rest unembedded.2⟩

theorem accompanied_sortedMembers : (members : List (String × Json)) →
    (∀ member ∈ members, member.2.Unembedded) → ∀ member ∈ sortedMembers members, member.2.Accompanied
  | [], _ => by simp [sortedMembers]
  | (key, value) :: rest, unembedded => by
      rw [List.forall_mem_cons] at unembedded
      intro member inside
      rw [sortedMembers] at inside
      rcases mem_insertMember inside with rfl | later
      · exact accompanied_sorted value unembedded.1
      · exact accompanied_sortedMembers rest unembedded.2 member later

end

/-! ## What a reader gives back -/

theorem unembedded_of_map {α : Type} {read : Except Fault α} {f : α → Json × List UInt8}
    (mapped : read.map f = .ok (value, rest)) (all : ∀ found, read = .ok found → (f found).1.Unembedded) :
    value.Unembedded := by
  cases read with
  | error fault => cases mapped
  | ok found =>
      have unembedded := all found rfl
      rw [Except.ok.inj mapped] at unembedded
      exact unembedded

/-- Members behind a key, none of which holds an object that begins with the embedding key. -/
def UnembeddedBehind (key : String) (members : List (String × Json)) : Prop :=
  (∃ value more, members = (key, value) :: more) ∧ ∀ member ∈ members, member.2.Unembedded

/-- What the readers give back when they have so much fuel, whatever they read. -/
structure GivesUnembedded (fuel : Nat) : Prop where
  value : ∀ {depth input value rest}, readValue fuel depth input = .ok (value, rest) → value.Unembedded
  items : ∀ {depth input items rest}, readItems fuel depth input = .ok (items, rest) →
    ∀ item ∈ items, item.Unembedded
  moreItems : ∀ {depth input items rest}, readMoreItems fuel depth input = .ok (items, rest) →
    ∀ item ∈ items, item.Unembedded
  object : ∀ {depth input value rest}, readObject fuel depth input = .ok (value, rest) → value.Unembedded
  member : ∀ {depth key input members rest}, readMember fuel depth key input = .ok (members, rest) →
    UnembeddedBehind key members
  moreMembers : ∀ {depth input members rest}, readMoreMembers fuel depth input = .ok (members, rest) →
    ∀ member ∈ members, member.2.Unembedded
  embedded : ∀ {input value rest}, readEmbedded fuel input = .ok (value, rest) → value.Unembedded

theorem givesUnembedded_zero : GivesUnembedded 0 where
  value read := by rw [readValue] at read; cases read
  items read := by rw [readItems] at read; cases read
  moreItems read := by rw [readMoreItems] at read; cases read
  object read := by rw [readObject] at read; cases read
  member read := by rw [readMember] at read; cases read
  moreMembers read := by rw [readMoreMembers] at read; cases read
  embedded read := by rw [readEmbedded] at read; cases read

section

variable (below : GivesUnembedded fuel)
include below

theorem unembedded_of_readValue (read : readValue (fuel + 1) depth input = .ok (value, rest)) :
    value.Unembedded := by
  rw [readValue] at read
  split at read
  · cases read
  split at read
  · exact unembedded_of_map read fun _ _ => throughout_leaf rfl trivial
  split at read
  · exact unembedded_of_map read fun _ _ => throughout_leaf rfl trivial
  split at read
  · exact unembedded_of_map read fun _ _ => throughout_leaf rfl trivial
  split at read
  · exact unembedded_of_map read fun _ _ => throughout_leaf rfl trivial
  split at read
  · exact unembedded_of_map read fun _ _ => throughout_leaf rfl trivial
  split at read
  · exact unembedded_of_map read fun _ _ => throughout_leaf rfl trivial
  split at read
  · cases depth with
    | zero => cases read
    | succ depth =>
        exact unembedded_of_map read fun _ inside => throughout_array.2 ⟨trivial, below.items inside⟩
  split at read
  · cases depth with
    | zero => cases read
    | succ depth => exact below.object read
  · cases read

theorem unembedded_of_readItems (read : readItems (fuel + 1) depth input = .ok (items, rest)) :
    ∀ item ∈ items, item.Unembedded := by
  rw [readItems] at read
  split at read
  · cases read
  split at read
  · cases read
    exact List.forall_mem_nil _
  split at read
  · cases read
  rename_i first
  split at read
  · cases read
  rename_i more
  cases read
  exact List.forall_mem_cons.2 ⟨below.value first, below.moreItems more⟩

theorem unembedded_of_readMoreItems (read : readMoreItems (fuel + 1) depth input = .ok (items, rest)) :
    ∀ item ∈ items, item.Unembedded := by
  rw [readMoreItems] at read
  split at read
  · cases read
  split at read
  · cases read
    exact List.forall_mem_nil _
  split at read
  · split at read
    · cases read
    split at read
    · cases read
    split at read
    · cases read
    rename_i first
    split at read
    · cases read
    rename_i more
    cases read
    exact List.forall_mem_cons.2 ⟨below.value first, below.moreItems more⟩
  · cases read

theorem unembedded_of_readObject (read : readObject (fuel + 1) depth input = .ok (value, rest)) :
    value.Unembedded := by
  rw [readObject] at read
  split at read
  · cases read
  split at read
  · cases read
    exact throughout_object.2 ⟨trivial, List.forall_mem_nil _⟩
  split at read
  · split at read
    · cases read
    split at read
    · exact below.embedded read
    rename_i other
    split at read
    · cases read
    rename_i behind
    cases read
    obtain ⟨⟨first, more, rfl⟩, unembedded⟩ := below.member behind
    exact throughout_object.2 ⟨other, unembedded⟩
  · cases read

theorem unembeddedBehind_of_readMember {key : String}
    (read : readMember (fuel + 1) depth key input = .ok (members, rest)) : UnembeddedBehind key members := by
  rw [readMember] at read
  split at read
  · cases read
  split at read
  · cases read
  rename_i first
  split at read
  · cases read
  rename_i more
  cases read
  exact ⟨⟨_, _, rfl⟩, List.forall_mem_cons.2 ⟨below.value first, below.moreMembers more⟩⟩

theorem unembedded_of_readMoreMembers (read : readMoreMembers (fuel + 1) depth input = .ok (members, rest)) :
    ∀ member ∈ members, member.2.Unembedded := by
  rw [readMoreMembers] at read
  split at read
  · cases read
  split at read
  · cases read
    exact List.forall_mem_nil _
  split at read
  · split at read
    · cases read
    split at read
    · split at read
      · cases read
      · exact (below.member read).2
    · split at read <;> cases read
  · cases read

theorem unembedded_of_readEmbedded (read : readEmbedded (fuel + 1) input = .ok (value, rest)) :
    value.Unembedded := by
  rw [readEmbedded] at read
  split at read
  · cases read
  split at read
  · cases read
  dsimp only at read
  split at read
  · cases read
  rename_i inner
  split at read
  · cases read
  exact unembedded_of_map read fun _ _ => below.value inner

end

theorem givesUnembedded (fuel : Nat) : GivesUnembedded fuel := by
  induction fuel with
  | zero => exact givesUnembedded_zero
  | succ fuel below =>
      exact ⟨unembedded_of_readValue below, unembedded_of_readItems below, unembedded_of_readMoreItems below,
        unembedded_of_readObject below, unembeddedBehind_of_readMember below,
        unembedded_of_readMoreMembers below, unembedded_of_readEmbedded below⟩

/-- No object of a parsed document holds nothing but the embedding key. -/
theorem accompanied_of_parse {document : List UInt8} (parsed : parse document = .ok value) :
    value.Accompanied := by
  unfold parse readDocument at parsed
  split at parsed
  · cases parsed
  rename_i document read
  cases parsed
  apply accompanied_sorted
  split at read
  · cases read
  rename_i first rest found
  cases ending : readEnd rest with
  | error fault =>
      rw [ending] at read
      cases read
  | ok _ =>
      rw [ending] at read
      cases read
      exact (givesUnembedded _).value found

end EventFeed.Json
