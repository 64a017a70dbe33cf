import EventFeed.Files.Source
import EventFeed.Proofs.Files.Following
import EventFeed.Proofs.Flow.Completion

/-!
# Orders of a directory

A system tells what a directory holds in an order of its own. The files to be read come out in the order of their
names all the same, so nothing that is read or handed over depends on it.
-/

namespace EventFeed

/-! ## Names in order -/

namespace SourceFile

variable {entries entries' : List (FileName × Option Content)} {name : FileName} {content : Content}

theorem mem_named : (name, content) ∈ named entries ↔ (name, some content) ∈ entries := by
  rw [named, List.mem_mergeSort, List.mem_filterMap]
  constructor
  · rintro ⟨⟨other, found⟩, inside, made⟩
    obtain ⟨held, rfl, same⟩ := Option.map_eq_some_iff.1 made
    cases same
    exact inside
  · intro inside
    exact ⟨_, inside, rfl⟩

theorem named_perm (perm : entries.Perm entries') : (named entries).Perm (named entries') :=
  (List.mergeSort_perm _ _).trans ((perm.filterMap _).trans (List.mergeSort_perm _ _).symm)

theorem nameLe_trans (x y z : FileName × Content) (below : nameLe x y = true) (above : nameLe y z = true) :
    nameLe x z = true :=
  decide_eq_true (List.le_trans (of_decide_eq_true below) (of_decide_eq_true above))

theorem nameLe_total (x y : FileName × Content) : (nameLe x y || nameLe y x) = true :=
  Bool.or_eq_true_iff.2 ((List.le_total x.1 y.1).imp decide_eq_true decide_eq_true)

/-- Names that differ come in strictly ascending order. -/
theorem named_ascending (distinct : (entries.map Prod.fst).Nodup) :
    (named entries).Pairwise fun x y => x.1 < y.1 := by
  have sorted : (named entries).Pairwise fun x y => nameLe x y = true :=
    List.pairwise_mergeSort nameLe_trans nameLe_total _
  have apart : (named entries).Pairwise fun x y => x.1 ≠ y.1 := by
    rw [named, (List.mergeSort_perm _ _).pairwise_iff fun differ => differ.symm]
    refine (List.pairwise_map.1 distinct).filterMap _ fun x y differ found leads found' leads' => ?_
    obtain ⟨_, _, rfl⟩ := Option.map_eq_some_iff.1 leads
    obtain ⟨_, _, rfl⟩ := Option.map_eq_some_iff.1 leads'
    exact differ
  refine (sorted.and apart).imp fun ⟨below, differ⟩ => ?_
  have least := of_decide_eq_true below
  exact List.not_le.1 fun above => differ (List.le_antisymm least above)

/-- There is one strictly ascending order. -/
theorem named_eq_of_perm (distinct : (entries.map Prod.fst).Nodup) (perm : entries.Perm entries') :
    named entries = named entries' :=
  (named_perm perm).eq_of_pairwise (fun _ _ _ _ below above => absurd above (List.lt_asymm below))
    (named_ascending distinct) (named_ascending ((perm.map Prod.fst).nodup_iff.1 distinct))

end SourceFile

/-! ## Files of a directory -/

namespace Entries

variable {top here order order' : Entries} {path : Path} {file : SourceFile}

/-- What is found at the path of a directory when its entries are gone through in some order. -/
def enumerated (top : Entries) (path : Path) (order : Entries) : Found :=
  .directory (order.map fun (name, _) => (name, top.content? (path.join name)))

/-- The files of a directory whose entries are gone through in some order. -/
def readingOrder (top : Entries) (path : Path) (order : Entries) : List SourceFile :=
  SourceFile.ofFound path (top.enumerated path order)

theorem inspect_eq_enumerated (found : top.follow path = .ok (.inr here)) :
    top.inspect path = .ok (top.enumerated path here) := by
  rw [inspect, found]
  rfl

theorem Listing.of_perm (listing : Listing here) (same : order.Perm here) : Listing order where
  distinct := (same.map Prod.fst).nodup_iff.2 listing.distinct
  proper entry inside := listing.proper entry (same.mem_iff.1 inside)

theorem names_enumerated (top : Entries) (path : Path) (order : Entries) :
    (order.map fun entry => (entry.1, top.content? (path.join entry.1))).map Prod.fst = order.map Prod.fst := by
  rw [List.map_map]
  rfl

theorem readingOrder_eq_of_perm (listing : Listing order) (same : order.Perm order') :
    top.readingOrder path order = top.readingOrder path order' := by
  refine congrArg (List.map _) (SourceFile.named_eq_of_perm ?_ (same.map _))
  rw [names_enumerated]
  exact listing.distinct

theorem mem_readingOrder :
    file ∈ top.readingOrder path order ↔
      ∃ name node, (name, node) ∈ order ∧ file.path = path.join name ∧
        top.content? (path.join name) = some file.content := by
  rw [readingOrder, enumerated, SourceFile.ofFound, List.mem_map]
  constructor
  · rintro ⟨⟨name, content⟩, inside, rfl⟩
    obtain ⟨⟨other, node⟩, held, same⟩ := List.mem_map.1 (SourceFile.mem_named.1 inside)
    obtain ⟨rfl, leads⟩ := Prod.mk.inj same
    exact ⟨other, node, held, rfl, leads⟩
  · rintro ⟨name, node, held, place, leads⟩
    refine ⟨(name, file.content), SourceFile.mem_named.2 (List.mem_map.2 ⟨_, held, ?_⟩), ?_⟩
    · exact congrArg (Prod.mk name) leads
    · exact congrArg (SourceFile.mk · file.content) place.symm

theorem readingOrder_ascending (listing : Listing order) :
    (top.readingOrder path order).Pairwise fun x y => x.path.lastName < y.path.lastName := by
  have ascending := SourceFile.named_ascending (by
    rw [names_enumerated top path order]
    exact listing.distinct)
  refine List.pairwise_map.2 (ascending.imp_of_mem fun {x y} inside inside' below => ?_)
  have last {entry : FileName × Content} (inside : entry ∈ SourceFile.named
      (order.map fun entry => (entry.1, top.content? (path.join entry.1)))) :
      (path.join entry.1).lastName = entry.1 := by
    obtain ⟨held, present, same⟩ := List.mem_map.1 (SourceFile.mem_named.1 inside)
    rw [← (Prod.mk.inj same).1]
    exact Path.lastName_join (listing.proper held present).noSlash path
  dsimp only
  rw [last inside, last inside']
  exact below

end Entries

/-! ## Runs over a directory -/

namespace Flow

variable {settings : Settings} {files : List SourceFile} {lines lines' : List SourceLine} {state state' : State}

/-- The events of the batches that were handed over are the first ones of the files. -/
theorem Course.events_isPrefix (accepted : settings.Accepted) (course : Course settings files lines state) :
    state.sender.batches.flatMap Batch.events <+: eventsOf (linesOfFiles files) := by
  have whole := course.passedOn_append_held accepted
  rw [State.passedOn, List.append_assoc, List.append_assoc] at whole
  rw [← course.lines_append_toCome, eventsOf_append, ← whole, List.append_assoc]
  exact List.prefix_append _ _

end Flow

open EventFeed.Entries EventFeed.Flow

/-- Whatever the order in which a directory is gone through, the one it is kept in or another, the files to be read
are the same ones: those of the names that are a file, or lead to one, in strictly ascending order of the names. So a
run in practice is the same, and of any two runs one reads and hands over what the other begins with, and the same if
both are complete. -/
theorem reading_ignores_enumeration {top here order order' : Entries} {path : Path}
    (found : top.follow path = .ok (.inr here)) (listing : Listing here) (same : order.Perm here)
    (same' : order'.Perm here) :
    top.inspect path = .ok (top.enumerated path here) ∧
    top.readingOrder path order' = top.readingOrder path order ∧
    (top.readingOrder path order).Pairwise (fun x y => x.path.lastName < y.path.lastName) ∧
    (∃ spot, spot.here = here ∧ Passes ⟨maxLinks, top, []⟩ path.names spot ∧
      ∀ file, file ∈ top.readingOrder path order ↔
        ∃ name node, (name, node) ∈ here ∧ file.path = path.join name ∧ file.path.bytes.length ≤ maxPath ∧
          spot.LeadsTo node file.content) ∧
    (∀ (m : Type → Type) [Monad m] (settings : Flow.Settings) (sink : Sink m), settings.input = path →
      ingest settings sink (.ok (top.enumerated path order')) =
        ingest settings sink (.ok (top.enumerated path order))) ∧
    ∀ (settings : Flow.Settings) lines lines' state state', settings.Accepted →
      Course settings (top.readingOrder path order) lines state →
      Course settings (top.readingOrder path order') lines' state' →
      (lines <+: lines' ∨ lines' <+: lines) ∧
      (state.sender.batches.flatMap Batch.events <+: state'.sender.batches.flatMap Batch.events ∨
        state'.sender.batches.flatMap Batch.events <+: state.sender.batches.flatMap Batch.events) ∧
      (state.sender.place = .complete → state'.sender.place = .complete →
        lines = linesOfFiles (top.readingOrder path order) ∧ lines' = lines ∧
        state'.sender.batches.flatMap Batch.events = state.sender.batches.flatMap Batch.events) := by
  have equal : top.readingOrder path order' = top.readingOrder path order :=
    readingOrder_eq_of_perm (listing.of_perm same') (same'.trans same.symm)
  refine ⟨inspect_eq_enumerated found, equal, readingOrder_ascending (listing.of_perm same), ?_, ?_, ?_⟩
  · obtain ⟨spot, rfl, passes, noZero⟩ := exists_spot found
    refine ⟨spot, rfl, passes, fun file => mem_readingOrder.trans (exists₂_congr fun name node => ?_)⟩
    rw [same.mem_iff]
    refine and_congr_right fun inside => and_congr_right fun place => ?_
    rw [place]
    exact content?_join_iff passes noZero listing inside
  · rintro m _ settings sink rfl
    have ofFound : SourceFile.ofFound settings.input (top.enumerated settings.input order') =
        SourceFile.ofFound settings.input (top.enumerated settings.input order) := equal
    rw [ingest, ofFound]
    rfl
  · intro settings lines lines' state state' accepted course course'
    rw [equal] at course'
    refine ⟨List.prefix_or_prefix_of_prefix ⟨_, course.lines_append_toCome⟩ ⟨_, course'.lines_append_toCome⟩,
      List.prefix_or_prefix_of_prefix (course.events_isPrefix accepted) (course'.events_isPrefix accepted), ?_⟩
    intro complete complete'
    obtain ⟨all, events⟩ := (course.completion_leaves_nothing accepted).2 complete
    obtain ⟨all', events'⟩ := (course'.completion_leaves_nothing accepted).2 complete'
    exact ⟨all, all'.trans all.symm, events'.trans events.symm⟩

/-! ## A directory of all kinds -/

/-- Files, a directory, and links to a file from the top, to one in the directory, and to nowhere. -/
def logEntries : Entries :=
  [(Utf8.ofString "b", .file (.readable (Utf8.ofString "\x7b\"n\":3\x7d\n") none)),
    (Utf8.ofString "nowhere", .link (Path.ofString "gone")),
    (Utf8.ofString "inner", .directory
      [(Utf8.ofString "x", .file (.readable (Utf8.ofString "\x7b\"n\":2\x7d") none))]),
    (Utf8.ofString "a.b", .link (Path.ofString "inner/x")),
    ([0xFF], .file (.closed .permissionDenied)),
    (Utf8.ofString "a", .link (Path.ofString "/logs/b"))]

def logTop : Entries :=
  [(Utf8.ofString "logs", .directory logEntries)]

def logFiles : List SourceFile :=
  [⟨Path.ofString "logs/a", .readable (Utf8.ofString "\x7b\"n\":3\x7d\n") none⟩,
    ⟨Path.ofString "logs/a.b", .readable (Utf8.ofString "\x7b\"n\":2\x7d") none⟩,
    ⟨Path.ofString "logs/b", .readable (Utf8.ofString "\x7b\"n\":3\x7d\n") none⟩,
    ⟨⟨Utf8.ofString "logs/" ++ [0xFF]⟩, .closed .permissionDenied⟩]

theorem follow_logTop : logTop.follow (Path.ofString "logs") = .ok (.inr logEntries) := by
  have steps : (Path.ofString "logs").steps = [Utf8.ofString "logs"] := by decide
  simp +decide [follow, steps, walk, logTop, find?]

/-- Where the names lead, which the links decide. -/
theorem enumerated_logEntries :
    logTop.enumerated (Path.ofString "logs") logEntries = .directory
      [(Utf8.ofString "b", some (.readable (Utf8.ofString "\x7b\"n\":3\x7d\n") none)),
        (Utf8.ofString "nowhere", none), (Utf8.ofString "inner", none),
        (Utf8.ofString "a.b", some (.readable (Utf8.ofString "\x7b\"n\":2\x7d") none)),
        ([0xFF], some (.closed .permissionDenied)),
        (Utf8.ofString "a", some (.readable (Utf8.ofString "\x7b\"n\":3\x7d\n") none))] := by
  have joined (name : FileName) (proper : Path.Proper name) :
      ((Path.ofString "logs").join name).steps = [Utf8.ofString "logs", name] := by
    rw [Path.steps_join proper.nonempty proper.noSlash]
    rfl
  have absolute : (Path.ofString "/logs/b").steps = [Utf8.ofString "logs", Utf8.ofString "b"] := by decide
  have relative : (Path.ofString "inner/x").steps = [Utf8.ofString "inner", Utf8.ofString "x"] := by decide
  have gone : (Path.ofString "gone").steps = [Utf8.ofString "gone"] := by decide
  simp +decide [enumerated, content?, follow, joined, walk, logTop, find?, logEntries, absolute, relative, gone,
    maxLinks]

theorem readingOrder_logEntries : logTop.readingOrder (Path.ofString "logs") logEntries = logFiles := by
  rw [readingOrder, enumerated_logEntries]
  simp +decide [SourceFile.ofFound, SourceFile.named, List.mergeSort, SourceFile.nameLe]

theorem listing_logEntries : Listing logEntries where
  distinct := by decide +kernel
  proper := by decide +kernel

def logRun : State :=
  ((State.start .narrow logFiles).proceed (m := Id) Flow.Settings.narrow.tuning
    (fun _ shared => (.error (.rejected "full"), shared)) 60).1

theorem reading_ignores_enumeration_logTop :
    logTop.follow (Path.ofString "logs") = .ok (.inr logEntries) ∧
    logTop.inspect (Path.ofString "logs") = .ok (logTop.enumerated (Path.ofString "logs") logEntries) ∧
    logTop.readingOrder (Path.ofString "logs") logEntries = logFiles ∧
    logTop.readingOrder (Path.ofString "logs") logEntries.reverse = logFiles ∧
    logRun.sender.place = .complete ∧
    ∃ lines, Course .narrow logFiles lines logRun ∧ lines = linesOfFiles logFiles ∧ lines.length = 3 := by
  have complete : logRun.sender.place = .complete := Sender.Place.isComplete_iff.1 (by decide +kernel)
  have begun : Course .narrow logFiles [] (State.start .narrow logFiles) := .start
  obtain ⟨lines, course⟩ := begun.proceed (fun _ => .error (.rejected "full")) 60
  obtain ⟨inspected, equal, _, _, _, runs⟩ :=
    reading_ignores_enumeration follow_logTop listing_logEntries .rfl (List.reverse_perm logEntries)
  rw [readingOrder_logEntries] at equal runs
  obtain ⟨_, _, ends⟩ := runs .narrow lines lines logRun logRun Settings.narrow_accepted course
    (by rw [equal]; exact course)
  obtain ⟨all, _⟩ := ends complete complete
  exact ⟨follow_logTop, inspected, readingOrder_logEntries, equal, complete, lines, course, all,
    by rw [all]; decide +kernel⟩

end EventFeed
