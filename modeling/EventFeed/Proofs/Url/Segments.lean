import EventFeed.Proofs.Text.Utf8
import EventFeed.Table.Name
import EventFeed.Url.Basic
import Mathlib.Data.List.Forall2

/-!
# Names on a path

A name on the way down becomes one segment, and escapes let it stand there whatever it holds. Two kinds of
names are lost all the same: those of one or two dots lead nowhere, and what is passed over is not
escaped. All other names are plain; a path of plain names can be read back.
-/

namespace EventFeed

/-! ## Escapes -/

namespace Percent

theorem hexValue?_digit {n : Nat} (small : n < 16) : hexValue? (Nat.digitChar n).toUpper = some n := by
  have all : ∀ n < 16, hexValue? (Nat.digitChar n).toUpper = some n := by decide
  exact all n small

theorem isAlphanum_digit {n : Nat} (small : n < 16) : (Nat.digitChar n).toUpper.isAlphanum = true := by
  have all : ∀ n < 16, (Nat.digitChar n).toUpper.isAlphanum = true := by decide
  exact all n small

theorem decode_escapeByte (b : UInt8) (rest : List Char) :
    decode (escapeByte b ++ rest) = b :: decode rest := by
  have bounded : b.toNat < 256 := b.toNat_lt
  have high : b.toNat / 16 < 16 := by omega
  have low : b.toNat % 16 < 16 := by omega
  have whole : b.toNat / 16 * 16 + b.toNat % 16 = b.toNat := by omega
  rw [escapeByte, List.cons_append, List.cons_append, List.cons_append, List.nil_append, decode,
    hexValue?_digit high, hexValue?_digit low]
  dsimp only
  rw [whole, UInt8.ofNat_toNat]

theorem decode_escapeBytes (bytes : List UInt8) (rest : List Char) :
    decode (bytes.flatMap escapeByte ++ rest) = bytes ++ decode rest := by
  induction bytes with
  | nil => rfl
  | cons b bytes ih => rw [List.flatMap_cons, List.append_assoc, decode_escapeByte, ih, List.cons_append]

/-- Only a percent sign begins an escape. -/
theorem decode_cons {c : Char} (other : c ≠ '%') (rest : List Char) :
    decode (c :: rest) = Utf8.encodeChar c ++ decode rest := by
  rw [decode]
  rintro high low rest same
  exact absurd same other

variable {keeps : Char → Bool}

theorem decode_escapeChar (marked : keeps '%' = false) (c : Char) (rest : List Char) :
    decode (escapeChar keeps c ++ rest) = Utf8.encodeChar c ++ decode rest := by
  unfold escapeChar
  split
  · rename_i kept
    have other : c ≠ '%' := by
      rintro rfl
      rw [marked] at kept
      cases kept
    exact decode_cons other rest
  · exact decode_escapeBytes (Utf8.encodeChar c) rest

/-- Where percent signs are escaped, an escaped text stands for the bytes of the text. -/
theorem decode_escape (marked : keeps '%' = false) (text : List Char) :
    decode (escape keeps text) = Utf8.encode text := by
  induction text with
  | nil => rfl
  | cons c text ih =>
      rw [escape, List.flatMap_cons, decode_escapeChar marked, ← escape, ih, Utf8.encode, Utf8.encode,
        List.flatMap_cons]

theorem mem_escapeByte {b : UInt8} {c : Char} (present : c ∈ escapeByte b) :
    c = '%' ∨ c.isAlphanum = true := by
  have bounded : b.toNat < 256 := b.toNat_lt
  rw [escapeByte, List.mem_cons, List.mem_cons, List.mem_singleton] at present
  rcases present with sign | high | low
  · exact .inl sign
  · rw [high]
    exact .inr (isAlphanum_digit (by omega))
  · rw [low]
    exact .inr (isAlphanum_digit (by omega))

/-- An escaped text holds what may stand for itself, and what escapes are made of. -/
theorem mem_escape {text : List Char} {c : Char} (present : c ∈ escape keeps text) :
    keeps c = true ∨ c = '%' ∨ c.isAlphanum = true := by
  obtain ⟨source, _, within⟩ := List.mem_flatMap.1 present
  unfold escapeChar at within
  split at within
  · rename_i kept
    rw [List.mem_singleton.1 within]
    exact .inl kept
  · obtain ⟨b, _, digit⟩ := List.mem_flatMap.1 within
    exact .inr (mem_escapeByte digit)

theorem escape_of_keeps {text : List Char} (kept : ∀ c ∈ text, keeps c = true) :
    escape keeps text = text := by
  induction text with
  | nil => rfl
  | cons c text ih =>
      have rest : escape keeps text = text := ih fun c present => kept c (List.mem_cons_of_mem _ present)
      rw [escape, List.flatMap_cons, ← escape, rest, escapeChar, if_pos (kept c List.mem_cons_self),
        List.singleton_append]

end Percent

namespace Url

/-! ## Segments -/

/-- A segment stands for a name: the marks between the parts of a URL do not occur in it, and it spells the
name. -/
structure StandsFor (segment name : String) : Prop where
  clear : ∀ c ∈ segment.toList, c ≠ '/' ∧ c ≠ '?' ∧ c ≠ '#'
  spells : Utf8.decode? (Percent.decode segment.toList) = some name.toList

/-- A segment stands for one name only. -/
theorem StandsFor.unique {segment name other : String} (stands : StandsFor segment name)
    (too : StandsFor segment other) : name = other := by
  have same : some name.toList = some other.toList := by rw [← stands.spells, too.spells]
  exact String.toList_inj.1 (Option.some.inj same)

def escaped (chars : List Char) : String :=
  String.ofList (Percent.escape Percent.keepsSegment chars)

def segmentOf (name : String) : String :=
  escaped name.toList

theorem standsFor_escaped (chars : List Char) : StandsFor (escaped chars) (String.ofList chars) := by
  constructor
  · intro c present
    rw [escaped, String.toList_ofList] at present
    have kinds := Percent.mem_escape present
    refine ⟨?_, ?_, ?_⟩ <;>
      · rintro rfl
        revert kinds
        decide
  · have marked : Percent.keepsSegment '%' = false := by decide
    rw [escaped, String.toList_ofList, String.toList_ofList, Percent.decode_escape marked,
      Utf8.decode?_encode]

theorem standsFor_segmentOf (name : String) : StandsFor (segmentOf name) name := by
  have stands := standsFor_escaped name.toList
  rwa [String.ofList_toList] at stands

theorem segmentOf_injective : Function.Injective segmentOf := by
  intro name other same
  have stands := standsFor_segmentOf name
  rw [same] at stands
  exact stands.unique (standsFor_segmentOf other)

theorem segmentOf_ne_empty {name : String} (nonempty : name ≠ "") : segmentOf name ≠ "" := by
  intro empty
  have same : segmentOf name = segmentOf "" := empty
  exact nonempty (segmentOf_injective same)

/-- The name of a table stands on a path as it is. -/
theorem segmentOf_table (table : TableName) : segmentOf table.text = table.text := by
  have all : ∀ v < 128, isNameChar (Char.ofNat v) = true → Percent.keepsSegment (Char.ofNat v) = true := by
    decide +kernel
  have kept : ∀ c ∈ table.text.toList, Percent.keepsSegment c = true := by
    intro c present
    have word := table.wordChars c present
    have ascii : c.toNat < 128 := ascii_of_isNameChar word
    have named := all c.toNat ascii
    rw [Char.ofNat_toNat] at named
    exact named word
  rw [segmentOf, escaped, Percent.escape_of_keeps kept, String.ofList_toList]

/-! ## Going down -/

/-- A name that does not get lost on the way down. -/
def Plain (name : String) : Prop :=
  name ≠ "." ∧ name ≠ ".." ∧ ∀ c ∈ name.toList, isPassedOver c = false

instance (name : String) : Decidable (Plain name) :=
  -- By a look at each character of the name, not at all characters there are.
  have _kept := List.decidableBAll (fun c => isPassedOver c = false) name.toList
  inferInstanceAs (Decidable (name ≠ "." ∧ name ≠ ".." ∧ ∀ c ∈ name.toList, isPassedOver c = false))

theorem plain_table (table : TableName) : Plain table.text := by
  have noDot : '.' ∉ table.text.toList := by
    intro present
    exact absurd (table.wordChars '.' present) (by decide)
  refine ⟨?_, ?_, ?_⟩
  · intro dot
    rw [dot] at noDot
    exact noDot (by decide)
  · intro dots
    rw [dots] at noDot
    exact noDot (by decide)
  · intro c present
    have word := table.wordChars c present
    cases passed : isPassedOver c with
    | false => rfl
    | true =>
        simp only [isPassedOver, Bool.or_eq_true, decide_eq_true_eq] at passed
        rcases passed with (rfl | rfl) | rfl <;> exact absurd word (by decide)

theorem cleaned_eq_iff {name : String} :
    cleaned name = name.toList ↔ ∀ c ∈ name.toList, isPassedOver c = false := by
  rw [cleaned, List.filter_eq_self]
  simp only [Bool.not_eq_true']

theorem descend_of_plain {name : String} (plain : Plain name) (path : List String) :
    descend path name = addSegment path (segmentOf name) := by
  obtain ⟨notDot, notDots, kept⟩ := plain
  have whole : cleaned name = name.toList := cleaned_eq_iff.2 kept
  have dot : name.toList ≠ ['.'] := fun same => notDot (String.toList_inj.1 same)
  have dots : name.toList ≠ ['.', '.'] := fun same => notDots (String.toList_inj.1 same)
  rw [descend, if_neg (not_or.2 ⟨notDot, notDots⟩)]
  dsimp only
  rw [whole, if_neg dots, if_neg dot]
  rfl

/-- What one step down can be. -/
inductive Descent (path : List String) (name : String) : List String → Prop where
  | stayed (dots : name = "." ∨ name = "..") : Descent path name path
  | wentUp (dots : cleaned name = ['.', '.']) : Descent path name (addSegment path.dropLast "")
  | wentAside (dot : cleaned name = ['.']) : Descent path name (addSegment path "")
  | wentDown (other : ¬(name = "." ∨ name = "..")) :
      Descent path name (addSegment path (escaped (cleaned name)))

theorem descent (path : List String) (name : String) : Descent path name (descend path name) := by
  unfold descend
  split
  · rename_i dots
    exact .stayed dots
  · rename_i other
    dsimp only
    split
    · rename_i dots
      exact .wentUp dots
    · split
      · rename_i dot
        exact .wentAside dot
      · exact .wentDown other

theorem addSegment_of_deep {path : List String} (deep : 2 ≤ path.length) (segment : String) :
    addSegment path segment = path ++ [segment] := by
  unfold addSegment
  split
  · rename_i root
    rw [root] at deep
    exact absurd deep (by decide)
  · rfl

theorem length_addSegment_le (path : List String) (segment : String) :
    (addSegment path segment).length ≤ path.length + 1 := by
  unfold addSegment
  split
  · exact Nat.le_add_left 1 path.length
  · exact Nat.le_of_eq List.length_append

/-- Below the root, only a plain name puts a segment that stands for it behind a path of the same length. -/
theorem plain_of_descend {path front : List String} {name segment : String} (deep : 2 ≤ path.length)
    (added : descend path name = front ++ [segment]) (longer : front.length = path.length)
    (stands : StandsFor segment name) : Plain name := by
  have way := descent path name
  have length : (descend path name).length = path.length + 1 := by
    rw [added, List.length_append, List.length_singleton, longer]
  generalize found : descend path name = below at way length added
  -- The path has grown, so the step neither stayed nor went up.
  cases way with
  | stayed _ => omega
  | wentUp _ =>
      have short := length_addSegment_le path.dropLast ""
      rw [List.length_dropLast] at short
      omega
  | wentAside dot =>
      rw [addSegment_of_deep deep] at added
      obtain ⟨_, same⟩ := List.append_inj' added rfl
      have empty : "" = segment := (List.cons.inj same).1
      rw [← empty] at stands
      have unnamed : "" = name := (standsFor_segmentOf "").unique stands
      rw [← unnamed] at dot
      cases dot
  | wentDown other =>
      rw [addSegment_of_deep deep] at added
      obtain ⟨_, same⟩ := List.append_inj' added rfl
      have written : escaped (cleaned name) = segment := (List.cons.inj same).1
      rw [← written] at stands
      have whole := congrArg String.toList ((standsFor_escaped (cleaned name)).unique stands)
      rw [String.toList_ofList] at whole
      obtain ⟨notDot, notDots⟩ := not_or.1 other
      exact ⟨notDot, notDots, cleaned_eq_iff.1 whole⟩

/-! ## Paths below a path -/

/-- The segments of a path that stay when something is put below it. -/
def stem (path : List String) : List String :=
  if withoutEnd path = [""] then [] else withoutEnd path

/-- A URL lies below another one by some names: on the same server, and its path goes on with one segment for
each name. -/
structure LiesBelow (url base : Url) (names : List String) : Prop where
  server : url.scheme = base.scheme ∧ url.user = base.user ∧ url.password = base.password ∧
    url.host = base.host ∧ url.port = base.port
  path : ∃ segments, url.path = stem base.path ++ segments ∧ List.Forall₂ StandsFor segments names

theorem forall₂_segmentOf (names : List String) : List.Forall₂ StandsFor (names.map segmentOf) names := by
  induction names with
  | nil => exact .nil
  | cons name names ih => exact .cons (standsFor_segmentOf name) ih

theorem addSegment_withoutEnd (path : List String) (segment : String) :
    addSegment (withoutEnd path) segment = stem path ++ [segment] := by
  unfold addSegment stem
  split <;> rfl

theorem foldl_descend {names : List String} (plain : ∀ name ∈ names, Plain name) {path : List String}
    (nonempty : path ≠ []) (below : path ≠ [""]) :
    names.foldl descend path = path ++ names.map segmentOf := by
  induction names generalizing path with
  | nil => rw [List.foldl_nil, List.map_nil, List.append_nil]
  | cons name names ih =>
      have here : Plain name := plain name List.mem_cons_self
      have rest : ∀ name ∈ names, Plain name :=
        fun name present => plain name (List.mem_cons_of_mem _ present)
      have down : descend path name = path ++ [segmentOf name] := by
        rw [descend_of_plain here, addSegment, if_neg below]
      -- Behind something even an empty segment does not make the path the root again.
      have longer : path ++ [segmentOf name] ≠ [""] := by
        intro root
        have lengths := congrArg List.length root
        rw [List.length_append] at lengths
        exact nonempty (List.length_eq_zero_iff.1 (Nat.succ.inj lengths))
      rw [List.foldl_cons, down, ih rest (List.append_ne_nil_of_right_ne_nil _ (List.cons_ne_nil _ _)) longer,
        List.map_cons, List.append_assoc, List.singleton_append]

/-- Plain names are what the path goes on with. -/
theorem path_below (base : Url) {first : String} {names : List String} (named : first ≠ "")
    (plain : ∀ name ∈ first :: names, Plain name) :
    (base.below (first :: names)).path = stem base.path ++ (first :: names).map segmentOf := by
  have here : Plain first := plain first List.mem_cons_self
  have rest : ∀ name ∈ names, Plain name := fun name present => plain name (List.mem_cons_of_mem _ present)
  have below : stem base.path ++ [segmentOf first] ≠ [""] := by
    intro root
    have alone : stem base.path ++ [segmentOf first] = [] ++ [""] := root
    obtain ⟨_, same⟩ := List.append_inj' alone rfl
    exact segmentOf_ne_empty named (List.cons.inj same).1
  rw [Url.below, List.foldl_cons, descend_of_plain here, addSegment_withoutEnd,
    foldl_descend rest (List.append_ne_nil_of_right_ne_nil _ (List.cons_ne_nil _ _)) below, List.map_cons,
    List.append_assoc, List.singleton_append]

/-! ## The text of a path -/

theorem mem_addSegment {path : List String} {added segment : String}
    (present : segment ∈ addSegment path added) : segment ∈ path ∨ segment = added := by
  unfold addSegment at present
  split at present
  · exact .inr (List.mem_singleton.1 present)
  · rcases List.mem_append.1 present with old | new
    · exact .inl old
    · exact .inr (List.mem_singleton.1 new)

/-- A step down brings no slash into a segment. -/
theorem noSlash_descend {path : List String} (clear : ∀ segment ∈ path, '/' ∉ segment.toList)
    (name : String) : ∀ segment ∈ descend path name, '/' ∉ segment.toList := by
  have way := descent path name
  generalize descend path name = below at way
  intro segment present
  cases way with
  | stayed _ => exact clear segment present
  | wentUp _ =>
      rcases mem_addSegment present with old | rfl
      · exact clear segment (List.dropLast_subset _ old)
      · decide
  | wentAside _ =>
      rcases mem_addSegment present with old | rfl
      · exact clear segment old
      · decide
  | wentDown _ =>
      rcases mem_addSegment present with old | rfl
      · exact clear segment old
      · intro slash
        exact ((standsFor_escaped (cleaned name)).clear '/' slash).1 rfl

theorem descend_ne_nil {path : List String} (nonempty : path ≠ []) (name : String) :
    descend path name ≠ [] := by
  have added : ∀ (path : List String) (segment : String), addSegment path segment ≠ [] := by
    intro path segment
    unfold addSegment
    split
    · exact List.cons_ne_nil _ _
    · exact List.append_ne_nil_of_right_ne_nil _ (List.cons_ne_nil _ _)
  have way := descent path name
  generalize descend path name = below at way
  cases way with
  | stayed _ => exact nonempty
  | wentUp _ => exact added _ _
  | wentAside _ => exact added _ _
  | wentDown _ => exact added _ _

/-- Where no segment holds a slash, the text of a path tells its segments. -/
theorem eq_of_intercalate_eq {path other : List String} (clear : ∀ segment ∈ path, '/' ∉ segment.toList)
    (clear' : ∀ segment ∈ other, '/' ∉ segment.toList) (nonempty : path ≠ []) (nonempty' : other ≠ [])
    (same : "/".intercalate path = "/".intercalate other) : path = other := by
  have readBack : ∀ {path : List String}, (∀ segment ∈ path, '/' ∉ segment.toList) → path ≠ [] →
      ("/".intercalate path).toList.splitOn '/' = path.map String.toList := by
    intro path clear nonempty
    have within : ∀ chars ∈ path.map String.toList, '/' ∉ chars := by
      intro chars present
      obtain ⟨segment, member, rfl⟩ := List.mem_map.1 present
      exact clear segment member
    rw [String.toList_intercalate]
    exact List.splitOn_intercalate '/' within fun empty => nonempty (List.map_eq_nil_iff.1 empty)
  have segments : path.map String.toList = other.map String.toList := by
    rw [← readBack clear nonempty, same, readBack clear' nonempty']
  exact List.map_injective_iff.2 (fun _ _ => String.toList_inj.1) segments

end Url

end EventFeed
