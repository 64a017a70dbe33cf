import EventFeed.Files.Tree

/-!
# Names in a directory

The path of a name in a directory leads to where the path of the directory leads, and from there on to what
stands under the name. A link is followed from the directory it stands in, with as many links as the way to
there has left.
-/

namespace EventFeed

/-! ## Paths of names -/

namespace Path

/-- A name that something in a directory may have. -/
structure Proper (name : FileName) : Prop where
  nonempty : name ≠ []
  noSlash : slash ∉ name
  noZero : 0 ∉ name
  ne_dot : name ≠ dot
  ne_dotDot : name ≠ dotDot
  short : name.length ≤ Entries.maxName

instance (name : FileName) : Decidable (Proper name) :=
  decidable_of_iff (name ≠ [] ∧ slash ∉ name ∧ 0 ∉ name ∧ name ≠ dot ∧ name ≠ dotDot ∧
      name.length ≤ Entries.maxName)
    ⟨fun ⟨nonempty, noSlash, noZero, ne_dot, ne_dotDot, short⟩ =>
      ⟨nonempty, noSlash, noZero, ne_dot, ne_dotDot, short⟩,
    fun ⟨nonempty, noSlash, noZero, ne_dot, ne_dotDot, short⟩ =>
      ⟨nonempty, noSlash, noZero, ne_dot, ne_dotDot, short⟩⟩

def names (path : Path) : List FileName :=
  (pieces path.bytes).filter (· ≠ [])

def lastName (path : Path) : FileName :=
  (pieces path.bytes).getLastD []

variable {name : FileName}

theorem pieces_ne_nil (bytes : List UInt8) : pieces bytes ≠ [] := by
  cases bytes with
  | nil => exact List.cons_ne_nil _ _
  | cons b rest =>
      rw [pieces]
      split
      · exact List.cons_ne_nil _ _
      · split
        · exact List.cons_ne_nil _ _
        · exact List.cons_ne_nil _ _

theorem pieces_of_notMem (noSlash : slash ∉ name) : pieces name = [name] := by
  induction name with
  | nil => rfl
  | cons b rest ih =>
      rw [pieces, if_neg (List.ne_of_not_mem_cons noSlash).symm, ih (List.not_mem_of_not_mem_cons noSlash)]

theorem pieces_append_slash (bytes more : List UInt8) :
    pieces (bytes ++ slash :: more) = pieces bytes ++ pieces more := by
  induction bytes with
  | nil => exact if_pos (rfl : slash = slash)
  | cons b rest ih =>
      rw [List.cons_append, pieces, pieces]
      by_cases mark : b = slash
      · rw [if_pos mark, if_pos mark, ih, List.cons_append]
      · rw [if_neg mark, if_neg mark, ih]
        cases behind : pieces rest with
        | nil => exact absurd behind (pieces_ne_nil rest)
        | cons piece others => rfl

/-- The path of a name has the pieces of the directory's path in front of it, but for empty ones. -/
theorem exists_pieces_join (noSlash : slash ∉ name) (path : Path) :
    ∃ before, pieces (path.join name).bytes = before ++ [name] ∧ before.filter (· ≠ []) = path.names := by
  by_cases atOnce : path.bytes = [] ∨ path.bytes.getLast? = some slash
  · rw [join, if_pos atOnce, names]
    rcases atOnce with empty | last
    · refine ⟨[], ?_, ?_⟩
      · rw [empty]
        exact pieces_of_notMem noSlash
      · rw [empty]
        rfl
    · obtain ⟨front, whole⟩ := List.getLast?_eq_some_iff.1 last
      refine ⟨pieces front, ?_, ?_⟩
      · rw [whole, List.append_assoc, List.singleton_append, pieces_append_slash, pieces_of_notMem noSlash]
      · rw [whole, pieces_append_slash, List.filter_append]
        exact (List.append_nil _).symm
  · rw [join, if_neg atOnce]
    exact ⟨pieces path.bytes, by rw [pieces_append_slash, pieces_of_notMem noSlash], rfl⟩

theorem lastName_join (noSlash : slash ∉ name) (path : Path) : (path.join name).lastName = name := by
  obtain ⟨before, pieces, _⟩ := exists_pieces_join noSlash path
  rw [lastName, pieces, List.getLastD_eq_getLast?, List.getLast?_concat, Option.getD_some]

/-- The way to a name goes through the names of the directory's path, and asks for no directory at its end. -/
theorem steps_join (nonempty : name ≠ []) (noSlash : slash ∉ name) (path : Path) :
    (path.join name).steps = path.names ++ [name] := by
  obtain ⟨before, pieces, kept⟩ := exists_pieces_join noSlash path
  have file : ¬(1 < (before ++ [name]).length ∧ (before ++ [name]).getLast? = some []) := by
    rw [List.getLast?_concat]
    exact fun ⟨_, last⟩ => nonempty (Option.some.inj last)
  rw [steps, pieces, if_neg file, List.append_nil, List.filter_append, kept,
    List.filter_cons_of_pos (by simpa using nonempty), List.filter_nil]

theorem steps_eq (path : Path) : path.steps = path.names ∨ path.steps = path.names ++ [dot] := by
  rw [steps]
  split
  · exact .inr rfl
  · exact .inl (List.append_nil _)

theorem join_ne_nil (nonempty : name ≠ []) (path : Path) : (path.join name).bytes ≠ [] := by
  rw [join]
  split
  · exact List.append_ne_nil_of_right_ne_nil _ nonempty
  · exact List.append_ne_nil_of_right_ne_nil _ (List.cons_ne_nil _ _)

theorem zero_notMem_join {path : Path} (noZero : 0 ∉ name) (absent : 0 ∉ path.bytes) :
    0 ∉ (path.join name).bytes := by
  rw [join]
  split
  · exact List.not_mem_append absent noZero
  · exact List.not_mem_append absent (List.not_mem_cons_of_ne_of_not_mem (by decide) noZero)

end Path

/-! ## Ways through directories -/

namespace Entries

/-- A directory with the directories above it, and how many links may still be followed from there. -/
structure Spot where
  links : Nat
  here : Entries
  above : List Entries

namespace Spot

def walk (spot : Spot) (names : List FileName) : Except SystemFault (Content ⊕ Entries) :=
  Entries.walk spot.links spot.here spot.above names

/-- Where the path of a link leads from: the directory that the link stands in, or the topmost one. -/
def linked (spot : Spot) (target : Path) : Spot :=
  if target.isAbsolute then ⟨spot.links, (spot.here :: spot.above).getLast (List.cons_ne_nil _ _), []⟩ else spot

variable {target : Path}

theorem linked_of_absolute (absolute : target.isAbsolute = true) (spot : Spot) :
    spot.linked target = ⟨spot.links, (spot.here :: spot.above).getLast (List.cons_ne_nil _ _), []⟩ :=
  if_pos absolute

theorem linked_of_relative (relative : ¬target.isAbsolute = true) (spot : Spot) : spot.linked target = spot :=
  if_neg relative

end Spot

/-- A name that stands for itself and is not too long. -/
structure Usual (name : FileName) : Prop where
  ne_dot : name ≠ Path.dot
  ne_dotDot : name ≠ Path.dotDot
  short : ¬maxName < name.length

inductive Passes : Spot → List FileName → Spot → Prop where
  | done (spot : Spot) : Passes spot [] spot
  | stay {spot last : Spot} {rest : List FileName} (onward : Passes spot rest last) :
      Passes spot (Path.dot :: rest) last
  | top {links : Nat} {here : Entries} {last : Spot} {rest : List FileName}
      (onward : Passes ⟨links, here, []⟩ rest last) : Passes ⟨links, here, []⟩ (Path.dotDot :: rest) last
  | up {links : Nat} {here outer : Entries} {above : List Entries} {last : Spot} {rest : List FileName}
      (onward : Passes ⟨links, outer, above⟩ rest last) :
      Passes ⟨links, here, outer :: above⟩ (Path.dotDot :: rest) last
  | down {links : Nat} {here inner : Entries} {above : List Entries} {name : FileName} {last : Spot}
      {rest : List FileName} (usual : Usual name) (found : find? name here = some (.directory inner))
      (onward : Passes ⟨links, inner, here :: above⟩ rest last) :
      Passes ⟨links, here, above⟩ (name :: rest) last
  | along {links : Nat} {here : Entries} {above : List Entries} {name : FileName} {target : Path} {last : Spot}
      {rest : List FileName} (usual : Usual name) (found : find? name here = some (.link target))
      (onward : Passes ((Spot.mk links here above).linked target) (target.steps ++ rest) last) :
      Passes ⟨links + 1, here, above⟩ (name :: rest) last

variable {spot last : Spot} {links : Nat} {here : Entries} {above : List Entries} {name : FileName}
  {names rest : List FileName} {inner : Entries}

/-! What each name does to a way. -/

theorem walk_nil (links : Nat) (here : Entries) (above : List Entries) :
    walk links here above [] = .ok (.inr here) := by
  rw [walk.eq_def]

theorem walk_dot (links : Nat) (here : Entries) (above : List Entries) (rest : List FileName) :
    walk links here above (Path.dot :: rest) = walk links here above rest := by
  rw [walk.eq_def]
  dsimp only
  rw [if_pos rfl]

theorem walk_dotDot (links : Nat) (here : Entries) (above : List Entries) (rest : List FileName) :
    walk links here above (Path.dotDot :: rest) =
      match above with
      | [] => walk links here [] rest
      | outer :: others => walk links outer others rest := by
  have other : Path.dotDot ≠ Path.dot := by decide
  cases above with
  | nil =>
      rw [walk.eq_def]
      exact (if_neg other).trans (if_pos rfl)
  | cons outer others =>
      rw [walk.eq_def]
      exact (if_neg other).trans (if_pos rfl)

theorem walk_usual (usual : Usual name) (links : Nat) (here : Entries) (above : List Entries)
    (rest : List FileName) :
    walk links here above (name :: rest) =
      match find? name here with
      | none => .error .noSuchFile
      | some (.file content) => if rest = [] then .ok (.inl content) else .error .notDirectory
      | some (.directory inner) => walk links inner (here :: above) rest
      | some (.link target) =>
          match links with
          | 0 => .error .tooManyLinks
          | links + 1 => ((Spot.mk links here above).linked target).walk (target.steps ++ rest) := by
  rw [walk.eq_def]
  dsimp only
  rw [if_neg usual.ne_dot, if_neg usual.ne_dotDot, if_neg usual.short]
  cases find? name here with
  | none => rfl
  | some node =>
      cases node with
      | file content => rfl
      | directory inner => rfl
      | link target =>
          cases links with
          | zero => rfl
          | succ links =>
              dsimp only [Spot.linked]
              split <;> rfl

/-- Where names lead to a directory, more names lead on from there. -/
theorem Passes.walk_append (passes : Passes spot names last) (more : List FileName) :
    spot.walk (names ++ more) = last.walk more := by
  induction passes with
  | done => rfl
  | stay onward ih =>
      rw [Spot.walk, List.cons_append, walk_dot]
      exact ih
  | top onward ih =>
      rw [Spot.walk, List.cons_append, walk_dotDot]
      exact ih
  | up onward ih =>
      rw [Spot.walk, List.cons_append, walk_dotDot]
      exact ih
  | down usual found onward ih =>
      rw [Spot.walk, List.cons_append, walk_usual usual, found]
      exact ih
  | along usual found onward ih =>
      rw [Spot.walk, List.cons_append, walk_usual usual, found]
      dsimp only
      rw [← List.append_assoc]
      exact ih

/-- A way that ends at a directory leads there. -/
theorem exists_passes (ends : walk links here above names = .ok (.inr inner)) :
    ∃ last, last.here = inner ∧ Passes ⟨links, here, above⟩ names last := by
  induction links, here, above, names using walk.induct with
  | case1 links here above =>
      rw [walk_nil] at ends
      cases ends
      exact ⟨_, rfl, .done _⟩
  | case2 links here above rest ih =>
      rw [walk_dot] at ends
      obtain ⟨last, same, onward⟩ := ih ends
      exact ⟨last, same, .stay onward⟩
  | case3 links here rest _ ih =>
      rw [walk_dotDot] at ends
      obtain ⟨last, same, onward⟩ := ih ends
      exact ⟨last, same, .top onward⟩
  | case4 links here rest outer others _ ih =>
      rw [walk_dotDot] at ends
      obtain ⟨last, same, onward⟩ := ih ends
      exact ⟨last, same, .up onward⟩
  | case5 links here above name rest noDot noDotDot long =>
      rw [walk.eq_def] at ends
      dsimp only at ends
      rw [if_neg noDot, if_neg noDotDot, if_pos long] at ends
      cases ends
  | case6 links here above name rest noDot noDotDot short found =>
      rw [walk_usual ⟨noDot, noDotDot, short⟩, found] at ends
      cases ends
  | case7 links here above name noDot noDotDot short content found =>
      rw [walk_usual ⟨noDot, noDotDot, short⟩, found] at ends
      cases ends
  | case8 links here above name rest noDot noDotDot short content found more =>
      rw [walk_usual ⟨noDot, noDotDot, short⟩, found] at ends
      dsimp only at ends
      rw [if_neg more] at ends
      cases ends
  | case9 links here above name rest noDot noDotDot short entries found ih =>
      rw [walk_usual ⟨noDot, noDotDot, short⟩, found] at ends
      obtain ⟨last, same, onward⟩ := ih ends
      exact ⟨last, same, .down ⟨noDot, noDotDot, short⟩ found onward⟩
  | case10 here above name rest noDot noDotDot short target found =>
      rw [walk_usual ⟨noDot, noDotDot, short⟩, found] at ends
      cases ends
  | case11 here above name rest noDot noDotDot short target found links absolute ih =>
      have linked := Spot.linked_of_absolute absolute ⟨links, here, above⟩
      rw [walk_usual ⟨noDot, noDotDot, short⟩, found] at ends
      dsimp only at ends
      rw [linked] at ends
      obtain ⟨last, same, onward⟩ := ih ends
      exact ⟨last, same, .along ⟨noDot, noDotDot, short⟩ found (by rw [linked]; exact onward)⟩
  | case12 here above name rest noDot noDotDot short target found links relative ih =>
      have linked := Spot.linked_of_relative relative ⟨links, here, above⟩
      rw [walk_usual ⟨noDot, noDotDot, short⟩, found] at ends
      dsimp only at ends
      rw [linked] at ends
      obtain ⟨last, same, onward⟩ := ih ends
      exact ⟨last, same, .along ⟨noDot, noDotDot, short⟩ found (by rw [linked]; exact onward)⟩

/-- A dot at the end of a way leads nowhere else. -/
theorem Passes.of_dot (passes : Passes spot (names ++ [Path.dot]) last) : Passes spot names last := by
  generalize whole : names ++ [Path.dot] = way at passes
  induction passes generalizing names with
  | done => exact absurd whole (List.append_ne_nil_of_right_ne_nil _ (List.cons_ne_nil _ _))
  | stay onward ih =>
      rcases List.append_eq_cons_iff.1 whole with ⟨rfl, alone⟩ | ⟨rest, rfl, same⟩
      · cases alone
        exact onward
      · exact .stay (ih same.symm)
  | top onward ih =>
      rcases List.append_eq_cons_iff.1 whole with ⟨rfl, alone⟩ | ⟨rest, rfl, same⟩
      · exact absurd (List.cons.inj alone).1 (by decide)
      · exact .top (ih same.symm)
  | up onward ih =>
      rcases List.append_eq_cons_iff.1 whole with ⟨rfl, alone⟩ | ⟨rest, rfl, same⟩
      · exact absurd (List.cons.inj alone).1 (by decide)
      · exact .up (ih same.symm)
  | down usual found onward ih =>
      rcases List.append_eq_cons_iff.1 whole with ⟨rfl, alone⟩ | ⟨rest, rfl, same⟩
      · exact absurd (List.cons.inj alone).1.symm usual.ne_dot
      · exact .down usual found (ih same.symm)
  | along usual found onward ih =>
      rcases List.append_eq_cons_iff.1 whole with ⟨rfl, alone⟩ | ⟨rest, rfl, same⟩
      · exact absurd (List.cons.inj alone).1.symm usual.ne_dot
      · exact .along usual found (ih (by rw [same, List.append_assoc]))

/-! ## What a directory holds -/

/-- What a directory may hold: no two things have one name, and all names are proper. -/
structure Listing (here : Entries) : Prop where
  distinct : (here.map Prod.fst).Nodup
  proper : ∀ entry ∈ here, Path.Proper entry.1

/-- The file that something at a spot is, or leads to as a link. -/
inductive Spot.LeadsTo (spot : Spot) : Node → Content → Prop where
  | file (content : Content) : LeadsTo spot (.file content) content
  | link {target : Path} {content : Content} {left : Nat} (links : spot.links = left + 1)
      (leads : (Spot.linked ⟨left, spot.here, spot.above⟩ target).walk target.steps = .ok (.inl content)) :
      LeadsTo spot (.link target) content

variable {top : Entries} {path : Path} {node : Node} {content : Content}

theorem find?_of_mem (distinct : (here.map Prod.fst).Nodup) (inside : (name, node) ∈ here) :
    find? name here = some node := by
  induction here with
  | nil => cases inside
  | cons entry rest ih =>
      obtain ⟨fresh, others⟩ := List.nodup_cons.1 distinct
      rcases List.mem_cons.1 inside with rfl | behind
      · exact if_pos rfl
      · have apart : entry.1 ≠ name := by
          intro same
          exact fresh (List.mem_map.2 ⟨_, behind, same.symm⟩)
        exact (if_neg apart).trans (ih others behind)

theorem usual_of_proper (proper : Path.Proper name) : Usual name :=
  ⟨proper.ne_dot, proper.ne_dotDot, Nat.not_lt.2 proper.short⟩

theorem Spot.walk_singleton_iff (usual : Usual name) (found : find? name spot.here = some node) :
    spot.walk [name] = .ok (.inl content) ↔ spot.LeadsTo node content := by
  rw [walk, walk_usual usual, found]
  cases node with
  | file held =>
      dsimp only
      rw [if_pos rfl]
      constructor
      · intro same
        cases same
        exact .file _
      · rintro ⟨⟩
        rfl
  | directory inner =>
      dsimp only
      rw [walk_nil]
      exact iff_of_false nofun nofun
  | link target =>
      dsimp only
      rw [List.append_nil]
      cases left : spot.links with
      | zero =>
          refine iff_of_false nofun ?_
          rintro ⟨⟩
          rename_i links _
          rw [left] at links
          cases links
      | succ links =>
          constructor
          · exact fun leads => .link left leads
          · rintro ⟨⟩
            rename_i same leads
            obtain rfl := Nat.succ.inj (left.symm.trans same)
            exact leads

/-- The path of a directory leads to a spot by its names. -/
theorem exists_spot (found : top.follow path = .ok (.inr here)) :
    ∃ spot, spot.here = here ∧ Passes ⟨maxLinks, top, []⟩ path.names spot ∧ 0 ∉ path.bytes := by
  unfold follow at found
  split at found
  · cases found
  split at found
  · cases found
  rename_i noZero
  split at found
  · cases found
  obtain ⟨spot, same, passes⟩ := exists_passes found
  refine ⟨spot, same, ?_, by simpa using noZero⟩
  rcases path.steps_eq with steps | steps
  · rw [← steps]
    exact passes
  · rw [steps] at passes
    exact passes.of_dot

/-- What the path of a name gives is the file that stands under the name, or is led to from there, unless that path
is too long. -/
theorem content?_join_iff (passes : Passes ⟨maxLinks, top, []⟩ path.names spot) (noZero : 0 ∉ path.bytes)
    (listing : Listing spot.here) (inside : (name, node) ∈ spot.here) :
    top.content? (path.join name) = some content ↔
      (path.join name).bytes.length ≤ maxPath ∧ spot.LeadsTo node content := by
  have proper : Path.Proper name := listing.proper _ inside
  have nonempty : (path.join name).bytes ≠ [] := Path.join_ne_nil proper.nonempty path
  have zero : ¬(path.join name).bytes.contains 0 = true := by
    simpa using Path.zero_notMem_join proper.noZero noZero
  have onward : walk maxLinks top [] (path.join name).steps = spot.walk [name] := by
    rw [Path.steps_join proper.nonempty proper.noSlash]
    exact passes.walk_append [name]
  rw [← Spot.walk_singleton_iff (usual_of_proper proper) (find?_of_mem listing.distinct inside), content?, follow,
    if_neg nonempty, if_neg zero]
  by_cases long : maxPath < (path.join name).bytes.length
  · rw [if_pos long]
    exact iff_of_false nofun fun ⟨short, _⟩ => Nat.not_lt.2 short long
  · rw [if_neg long, onward, and_iff_right (Nat.not_lt.1 long)]
    cases spot.walk [name] with
    | error fault => exact iff_of_false nofun nofun
    | ok end_ =>
        cases end_ with
        | inl held => exact ⟨fun same => by cases same; rfl, fun same => by cases same; rfl⟩
        | inr inner => exact iff_of_false nofun nofun

end Entries

end EventFeed
