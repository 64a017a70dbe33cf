import EventFeed.Schema.FromText

/-!
# What a document spells

`Spells` says which bytes spell a value, and what stands behind them, without fuel and without a limit for the
nesting. Whatever the JSON reader accepts is spelled so. An object whose only key is the embedding one may spell
any value at all, since what its text means is left to the reader.
-/

namespace EventFeed.Schema

open Json (skipBlanks readWord readNumber readString readColon isDigit nullTail trueTail falseTail embeddedKey)

variable {input tail rest : List UInt8} {value : Json} {items : List Json} {members : List (String × Json)}
  {fuel depth : Nat} {first : Bool}

mutual

/-- The bytes spell a value in front of the rest. -/
inductive Spells : List UInt8 → Json → List UInt8 → Prop where
  | null {input tail rest : List UInt8} (front : skipBlanks input = 0x6E :: tail)
      (word : readWord nullTail tail = .ok rest) : Spells input .null rest
  | isTrue {input tail rest : List UInt8} (front : skipBlanks input = 0x74 :: tail)
      (word : readWord trueTail tail = .ok rest) : Spells input (.bool true) rest
  | isFalse {input tail rest : List UInt8} (front : skipBlanks input = 0x66 :: tail)
      (word : readWord falseTail tail = .ok rest) : Spells input (.bool false) rest
  | negative {input tail rest : List UInt8} {number : Number} (front : skipBlanks input = 0x2D :: tail)
      (read : readNumber true tail = .ok (number, rest)) : Spells input (.number number) rest
  | number {input tail rest : List UInt8} {b : UInt8} {number : Number} (front : skipBlanks input = b :: tail)
      (digit : isDigit b = true) (read : readNumber false (b :: tail) = .ok (number, rest)) :
      Spells input (.number number) rest
  | string {input tail rest : List UInt8} {fuel : Nat} {text : String} (front : skipBlanks input = 0x22 :: tail)
      (read : readString fuel tail = .ok (text, rest)) : Spells input (.string text) rest
  | array {input tail rest : List UInt8} {items : List Json} (front : skipBlanks input = 0x5B :: tail)
      (inside : SpellsItems true tail items rest) : Spells input (.array items) rest
  | object {input tail rest : List UInt8} {members : List (String × Json)}
      (front : skipBlanks input = 0x7B :: tail) (inside : SpellsMembers true tail members rest) :
      Spells input (.object members) rest
  | embedded {input tail rest : List UInt8} {text : String} {value : Json}
      (front : skipBlanks input = 0x7B :: tail)
      (inside : SpellsMembers true tail [(embeddedKey, .string text)] rest) : Spells input value rest

/-- The bytes spell items and the end of their list; `first` when no item stands before them. -/
inductive SpellsItems : Bool → List UInt8 → List Json → List UInt8 → Prop where
  | close {first : Bool} {input rest : List UInt8} (next : nextItem first input = .ok (.close rest)) :
      SpellsItems first input [] rest
  | item {first : Bool} {input front middle rest : List UInt8} {item : Json} {items : List Json}
      (next : nextItem first input = .ok (.item front)) (here : Spells front item middle)
      (more : SpellsItems false middle items rest) : SpellsItems first input (item :: items) rest

inductive SpellsMembers : Bool → List UInt8 → List (String × Json) → List UInt8 → Prop where
  | close {first : Bool} {fuel : Nat} {input rest : List UInt8}
      (next : nextKey fuel first input = .ok (.close rest)) : SpellsMembers first input [] rest
  | member {first : Bool} {fuel : Nat} {input after front middle rest : List UInt8} {key : String}
      {value : Json} {members : List (String × Json)} (next : nextKey fuel first input = .ok (.key key after))
      (colon : readColon after = .ok front) (here : Spells front value middle)
      (more : SpellsMembers false middle members rest) :
      SpellsMembers first input ((key, value) :: members) rest

end

/-! ## Blanks in front -/

theorem skipBlanks_skipBlanks (input : List UInt8) : skipBlanks (skipBlanks input) = skipBlanks input := by
  induction input with
  | nil => rfl
  | cons b behind ih =>
      rw [skipBlanks]
      split
      · exact ih
      · rename_i visible
        rw [skipBlanks, if_neg visible]

theorem skipBlanks_of_front {b : UInt8} (front : skipBlanks input = b :: tail) :
    skipBlanks (b :: tail) = b :: tail := by
  rw [← front, skipBlanks_skipBlanks]

/-- What is spelled depends on what stands behind the blanks only. -/
theorem Spells.of_skipBlanks {other : List UInt8} (same : skipBlanks other = skipBlanks input)
    (spelled : Spells input value rest) : Spells other value rest := by
  cases spelled with
  | null front word => exact .null (same.trans front) word
  | isTrue front word => exact .isTrue (same.trans front) word
  | isFalse front word => exact .isFalse (same.trans front) word
  | negative front read => exact .negative (same.trans front) read
  | number front digit read => exact .number (same.trans front) digit read
  | string front read => exact .string (same.trans front) read
  | array front inside => exact .array (same.trans front) inside
  | object front inside => exact .object (same.trans front) inside
  | embedded front inside => exact .embedded (same.trans front) inside

/-! ## What the first byte tells -/

theorem Spells.of_null (spelled : Spells input value rest) (front : skipBlanks input = 0x6E :: tail) :
    value = .null ∧ readWord nullTail tail = .ok rest := by
  cases spelled with
  | null front' word =>
      cases front.symm.trans front'
      exact ⟨rfl, word⟩
  | number front' digit =>
      cases front.symm.trans front'
      cases digit
  | _ front' => cases front.symm.trans front'

theorem Spells.of_true (spelled : Spells input value rest) (front : skipBlanks input = 0x74 :: tail) :
    value = .bool true ∧ readWord trueTail tail = .ok rest := by
  cases spelled with
  | isTrue front' word =>
      cases front.symm.trans front'
      exact ⟨rfl, word⟩
  | number front' digit =>
      cases front.symm.trans front'
      cases digit
  | _ front' => cases front.symm.trans front'

theorem Spells.of_false (spelled : Spells input value rest) (front : skipBlanks input = 0x66 :: tail) :
    value = .bool false ∧ readWord falseTail tail = .ok rest := by
  cases spelled with
  | isFalse front' word =>
      cases front.symm.trans front'
      exact ⟨rfl, word⟩
  | number front' digit =>
      cases front.symm.trans front'
      cases digit
  | _ front' => cases front.symm.trans front'

theorem Spells.of_quote (spelled : Spells input value rest) (front : skipBlanks input = 0x22 :: tail) :
    ∃ fuel text, value = .string text ∧ readString fuel tail = .ok (text, rest) := by
  cases spelled with
  | string front' read =>
      cases front.symm.trans front'
      exact ⟨_, _, rfl, read⟩
  | number front' digit =>
      cases front.symm.trans front'
      cases digit
  | _ front' => cases front.symm.trans front'

theorem Spells.of_bracket (spelled : Spells input value rest) (front : skipBlanks input = 0x5B :: tail) :
    ∃ items, value = .array items ∧ SpellsItems true tail items rest := by
  cases spelled with
  | array front' inside =>
      cases front.symm.trans front'
      exact ⟨_, rfl, inside⟩
  | number front' digit =>
      cases front.symm.trans front'
      cases digit
  | _ front' => cases front.symm.trans front'

theorem Spells.skipBlanks_ne_nil (spelled : Spells input value rest) : skipBlanks input ≠ [] := by
  cases spelled with
  | _ front =>
      rw [front]
      exact List.cons_ne_nil _ _

/-- Where an object stands, its members may be those of another document. -/
theorem Spells.of_brace (spelled : Spells input value rest) (front : skipBlanks input = 0x7B :: tail) :
    (∃ members, value = .object members ∧ SpellsMembers true tail members rest) ∨
      ∃ text, SpellsMembers true tail [(embeddedKey, .string text)] rest := by
  cases spelled with
  | object front' inside =>
      cases front.symm.trans front'
      exact .inl ⟨_, rfl, inside⟩
  | embedded front' inside =>
      cases front.symm.trans front'
      exact .inr ⟨_, inside⟩
  | number front' digit =>
      cases front.symm.trans front'
      cases digit
  | _ front' => cases front.symm.trans front'

/-! ## Between items and members -/

theorem skipBlanks_of_close (next : nextItem first input = .ok (.close rest)) :
    skipBlanks input = 0x5D :: rest := by
  unfold nextItem at next
  split at next
  · cases next
  rename_i b tail front
  split at next
  · rename_i bracket
    cases next
    rw [front, bracket]
  split at next
  · cases next
  split at next
  · split at next
    · cases next
    split at next <;> cases next
  · cases next

/-- Where an item begins: behind the blanks, and behind a comma where another one stands before it. -/
theorem skipBlanks_of_item {front : List UInt8} (next : nextItem first input = .ok (.item front)) :
    ∃ b tail, b ≠ 0x5D ∧ front = b :: tail ∧
      if first then skipBlanks input = b :: tail
      else ∃ behind, skipBlanks input = 0x2C :: behind ∧ skipBlanks behind = b :: tail := by
  unfold nextItem at next
  split at next
  · cases next
  rename_i b tail blanks
  split at next
  · cases next
  rename_i noBracket
  split at next
  · rename_i start
    cases next
    exact ⟨b, tail, noBracket, rfl, by rw [if_pos start, blanks]⟩
  rename_i notFirst
  split at next
  · rename_i comma
    split at next
    · cases next
    rename_i c after more
    split at next
    · cases next
    rename_i noEnd
    cases next
    refine ⟨c, after, noEnd, rfl, ?_⟩
    rw [if_neg notFirst, ← comma]
    exact ⟨tail, blanks, more⟩
  · cases next

theorem skipBlanks_of_closeKey (next : nextKey fuel first input = .ok (.close rest)) :
    skipBlanks input = 0x7D :: rest := by
  have never (b : UInt8) (tail : List UInt8) : readKey fuel (b :: tail) ≠ .ok (.close rest) := by
    intro read
    rw [readKey] at read
    split at read
    · cases found : readString fuel tail with
      | error fault => rw [found] at read; cases read
      | ok pair => rw [found] at read; cases read
    · cases read
  unfold nextKey at next
  split at next
  · cases next
  rename_i b tail front
  split at next
  · rename_i brace
    cases next
    rw [front, brace]
  split at next
  · exact absurd next (never _ _)
  split at next
  · split at next
    · cases next
    split at next
    · cases next
    · exact absurd next (never _ _)
  · cases next

/-- Where a key begins. -/
theorem skipBlanks_of_key {key : String} {after : List UInt8}
    (next : nextKey fuel first input = .ok (.key key after)) :
    ∃ tail, readString fuel tail = .ok (key, after) ∧
      if first then skipBlanks input = 0x22 :: tail
      else ∃ behind, skipBlanks input = 0x2C :: behind ∧ skipBlanks behind = 0x22 :: tail := by
  have quoted {b : UInt8} {behind : List UInt8} (read : readKey fuel (b :: behind) = .ok (.key key after)) :
      b = 0x22 ∧ readString fuel behind = .ok (key, after) := by
    rw [readKey] at read
    split at read
    · rename_i quote
      cases found : readString fuel behind with
      | error fault => rw [found] at read; cases read
      | ok pair =>
          rw [found] at read
          cases read
          exact ⟨quote, rfl⟩
    · cases read
  unfold nextKey at next
  split at next
  · cases next
  rename_i b tail blanks
  split at next
  · cases next
  split at next
  · rename_i start
    obtain ⟨quote, found⟩ := quoted next
    exact ⟨tail, found, by rw [if_pos start, blanks, quote]⟩
  rename_i notFirst
  split at next
  · rename_i comma
    split at next
    · cases next
    rename_i c behind more
    split at next
    · cases next
    obtain ⟨quote, found⟩ := quoted next
    refine ⟨behind, found, ?_⟩
    rw [if_neg notFirst, ← comma, ← quote]
    exact ⟨tail, blanks, more⟩
  · cases next

theorem SpellsItems.of_close (front : skipBlanks input = 0x5D :: rest) : SpellsItems first input [] rest := by
  refine .close ?_
  rw [nextItem, front]
  rfl

theorem SpellsMembers.of_close (front : skipBlanks input = 0x7D :: rest) :
    SpellsMembers first input [] rest := by
  have next : nextKey 0 first input = .ok (.close rest) := by
    rw [nextKey, front]
    rfl
  exact .close next

/-! ## What the JSON reader accepts -/

/-- What the readers accept when they have so much fuel is spelled by what they read. -/
structure AcceptsSpelled (fuel : Nat) : Prop where
  value : ∀ {depth input value rest}, Json.readValue fuel depth input = .ok (value, rest) →
    Spells input value rest
  items : ∀ {depth input items rest}, Json.readItems fuel depth input = .ok (items, rest) →
    SpellsItems true input items rest
  moreItems : ∀ {depth input items rest}, Json.readMoreItems fuel depth input = .ok (items, rest) →
    SpellsItems false input items rest
  object : ∀ {depth input value rest}, Json.readObject fuel depth input = .ok (value, rest) →
    Spells (0x7B :: input) value rest
  member : ∀ {depth key input members rest}, Json.readMember fuel depth key input = .ok (members, rest) →
    ∀ {keyFuel first before}, nextKey keyFuel first before = .ok (.key key input) →
      SpellsMembers first before members rest
  moreMembers : ∀ {depth input members rest}, Json.readMoreMembers fuel depth input = .ok (members, rest) →
    SpellsMembers false input members rest
  embedded : ∀ {input value rest}, Json.readEmbedded fuel input = .ok (value, rest) →
    ∀ {keyFuel before}, nextKey keyFuel true before = .ok (.key embeddedKey input) →
      ∃ text, SpellsMembers true before [(embeddedKey, .string text)] rest

theorem acceptsSpelled_zero : AcceptsSpelled 0 where
  value read := by rw [Json.readValue] at read; cases read
  items read := by rw [Json.readItems] at read; cases read
  moreItems read := by rw [Json.readMoreItems] at read; cases read
  object read := by rw [Json.readObject] at read; cases read
  member read := by rw [Json.readMember] at read; cases read
  moreMembers read := by rw [Json.readMoreMembers] at read; cases read
  embedded read := by rw [Json.readEmbedded] at read; cases read

theorem exists_of_map {α β : Type} {read : Json.Read α} {f : α → β} {found : β}
    (mapped : (read.map fun (value, rest) => (f value, rest)) = .ok (found, rest)) :
    ∃ value, read = .ok (value, rest) ∧ f value = found := by
  cases read with
  | error fault => cases mapped
  | ok pair =>
      cases mapped
      exact ⟨pair.1, rfl, rfl⟩

theorem word_of_map {α : Type} {word : Except Json.Fault (List UInt8)} {value found : α}
    (mapped : word.map (value, ·) = .ok (found, rest)) : word = .ok rest ∧ value = found := by
  cases word with
  | error fault => cases mapped
  | ok behind =>
      cases mapped
      exact ⟨rfl, rfl⟩

theorem spells_of_readEmbedded (read : Json.readEmbedded (fuel + 1) input = .ok (value, rest)) {keyFuel : Nat}
    {before : List UInt8} (next : nextKey keyFuel true before = .ok (.key embeddedKey input)) :
    ∃ text, SpellsMembers true before [(embeddedKey, .string text)] rest := by
  rw [Json.readEmbedded] at read
  split at read
  · cases read
  rename_i front colon
  split at read
  · cases read
  rename_i text behind found
  dsimp only at read
  split at read
  · cases read
  split at read
  · cases read
  obtain ⟨ended, rfl⟩ := word_of_map read
  have here : Spells front (.string text) behind := by
    unfold Json.readText at found
    split at found
    · cases found
    rename_i b tail blanks
    split at found
    · rename_i quote
      exact .string (quote ▸ blanks) found
    · cases found
  have closed : SpellsMembers false behind [] rest := by
    unfold Json.readLoneClose at ended
    split at ended
    · cases ended
    rename_i b tail blanks
    split at ended
    · rename_i close
      cases ended
      exact .of_close (close ▸ blanks)
    · cases ended
  exact ⟨text, .member next colon here closed⟩

section

variable (below : AcceptsSpelled fuel)
include below

theorem spells_of_readValue (read : Json.readValue (fuel + 1) depth input = .ok (value, rest)) :
    Spells input value rest := by
  rw [Json.readValue] at read
  split at read
  · cases read
  rename_i b tail front
  split at read
  · rename_i letter
    obtain ⟨word, rfl⟩ := word_of_map read
    exact .null (letter ▸ front) word
  split at read
  · rename_i letter
    obtain ⟨word, rfl⟩ := word_of_map read
    exact .isTrue (letter ▸ front) word
  split at read
  · rename_i letter
    obtain ⟨word, rfl⟩ := word_of_map read
    exact .isFalse (letter ▸ front) word
  split at read
  · rename_i minus
    obtain ⟨number, found, rfl⟩ := exists_of_map read
    exact .negative (minus ▸ front) found
  split at read
  · rename_i digit
    obtain ⟨number, found, rfl⟩ := exists_of_map read
    exact .number front digit found
  split at read
  · rename_i quote
    obtain ⟨text, found, rfl⟩ := exists_of_map read
    exact .string (quote ▸ front) found
  split at read
  · rename_i bracket
    cases depth with
    | zero => cases read
    | succ depth =>
        obtain ⟨items, found, rfl⟩ := exists_of_map read
        exact .array (bracket ▸ front) (below.items found)
  split at read
  · rename_i brace
    cases depth with
    | zero => cases read
    | succ depth =>
        refine (below.object read).of_skipBlanks ?_
        rw [← brace, skipBlanks_of_front front, front]
  · cases read

theorem spells_of_readItems (read : Json.readItems (fuel + 1) depth input = .ok (items, rest)) :
    SpellsItems true input items rest := by
  rw [Json.readItems] at read
  split at read
  · cases read
  rename_i b tail front
  split at read
  · rename_i bracket
    cases read
    exact .of_close (bracket ▸ front)
  rename_i noBracket
  split at read
  · cases read
  rename_i here
  split at read
  · cases read
  rename_i more
  cases read
  refine .item ?_ (below.value here) (below.moreItems more)
  rw [nextItem, front]
  dsimp only
  rw [if_neg noBracket]
  rfl

theorem spells_of_readMoreItems (read : Json.readMoreItems (fuel + 1) depth input = .ok (items, rest)) :
    SpellsItems false input items rest := by
  rw [Json.readMoreItems] at read
  split at read
  · cases read
  rename_i b tail front
  split at read
  · rename_i bracket
    cases read
    exact .of_close (bracket ▸ front)
  rename_i noBracket
  split at read
  · rename_i comma
    split at read
    · cases read
    rename_i c after behind
    split at read
    · cases read
    rename_i noEnd
    split at read
    · cases read
    rename_i here
    split at read
    · cases read
    rename_i more
    cases read
    refine .item ?_ (below.value here) (below.moreItems more)
    rw [nextItem, front]
    dsimp only
    rw [if_neg noBracket, if_neg Bool.false_ne_true, if_pos comma, behind]
    exact if_neg noEnd
  · cases read

theorem spells_of_readObject (read : Json.readObject (fuel + 1) depth input = .ok (value, rest)) :
    Spells (0x7B :: input) value rest := by
  have brace : skipBlanks (0x7B :: input) = 0x7B :: input := rfl
  rw [Json.readObject] at read
  split at read
  · cases read
  rename_i b tail front
  split at read
  · rename_i close
    cases read
    exact .object brace (.of_close (close ▸ front))
  rename_i noClose
  split at read
  · rename_i quote
    split at read
    · cases read
    rename_i key after found
    have next : nextKey fuel true input = .ok (.key key after) := by
      rw [nextKey, front]
      dsimp only
      rw [if_neg noClose, if_pos rfl, readKey, if_pos quote, found]
      rfl
    split at read
    · rename_i embeds
      subst embeds
      obtain ⟨text, inside⟩ := below.embedded read next
      exact .embedded brace inside
    split at read
    · cases read
    rename_i found
    cases read
    exact .object brace (below.member found next)
  · cases read

theorem spells_of_readMember {key : String}
    (read : Json.readMember (fuel + 1) depth key input = .ok (members, rest)) {keyFuel : Nat}
    {before : List UInt8} (next : nextKey keyFuel first before = .ok (.key key input)) :
    SpellsMembers first before members rest := by
  rw [Json.readMember] at read
  split at read
  · cases read
  rename_i colon
  split at read
  · cases read
  rename_i here
  split at read
  · cases read
  rename_i more
  cases read
  exact .member next colon (below.value here) (below.moreMembers more)

theorem spells_of_readMoreMembers (read : Json.readMoreMembers (fuel + 1) depth input = .ok (members, rest)) :
    SpellsMembers false input members rest := by
  rw [Json.readMoreMembers] at read
  split at read
  · cases read
  rename_i b tail front
  split at read
  · rename_i close
    cases read
    exact .of_close (close ▸ front)
  rename_i noClose
  split at read
  · rename_i comma
    split at read
    · cases read
    rename_i c after behind
    split at read
    · rename_i quote
      split at read
      · cases read
      rename_i key left found
      have next : nextKey fuel false input = .ok (.key key left) := by
        rw [nextKey, front]
        dsimp only
        rw [if_neg noClose, if_neg Bool.false_ne_true, if_pos comma, behind]
        dsimp only
        rw [if_neg (by rw [quote]; decide), readKey, if_pos quote, found]
        rfl
      exact below.member read next
    · split at read <;> cases read
  · cases read

end

theorem acceptsSpelled (fuel : Nat) : AcceptsSpelled fuel := by
  induction fuel with
  | zero => exact acceptsSpelled_zero
  | succ fuel below =>
      exact ⟨spells_of_readValue below, spells_of_readItems below, spells_of_readMoreItems below,
        spells_of_readObject below, fun read => spells_of_readMember below read,
        spells_of_readMoreMembers below, fun read => spells_of_readEmbedded read⟩

end EventFeed.Schema
