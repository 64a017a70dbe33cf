import EventFeed.Proofs.Flow.Completion

/-!
# Batches of one size

Where a full batch is no more than what is worth a request, every batch is full but the last one: before the
reader has finished the sender drains only what makes a full batch, and after that nothing more comes in. So
the batches of a finished run are the events of its files, cut into pieces of one size, in whatever order the
steps came and whatever the sink said.
-/

namespace EventFeed.Flow

variable {settings : Settings} {files : List SourceFile} {lines : List SourceLine} {state next : State}

/-! ## Cutting a list -/

section Cutting

variable {α : Type} {size : Nat}

/-- Some items in consecutive pieces of a size; the last piece holds what is left over. -/
def cut (size : Nat) (items : List α) : List (List α) :=
  if _whole : items = [] ∨ size = 0 then [] else items.take size :: cut size (items.drop size)
  termination_by items.length
  decreasing_by
    rw [not_or] at _whole
    have positive := List.length_pos_iff.2 _whole.1
    rw [List.length_drop]
    omega

/-- All pieces are full but the last one, which is not empty. -/
structure Pieces (size : Nat) (pieces : List (List α)) : Prop where
  full : ∀ piece ∈ pieces.dropLast, piece.length = size
  bounded : ∀ piece ∈ pieces, piece ≠ [] ∧ piece.length ≤ size

theorem cut_nil : cut size ([] : List α) = [] := by
  rw [cut]
  exact dif_pos (.inl rfl)

theorem cut_cons {piece : List α} (rest : List α) (nonempty : piece ≠ []) (fits : piece.length ≤ size)
    (full : rest = [] ∨ piece.length = size) : cut size (piece ++ rest) = piece :: cut size rest := by
  have positive := List.length_pos_iff.2 nonempty
  have whole : ¬(piece ++ rest = [] ∨ size = 0) := by
    rintro (empty | zero)
    · exact nonempty (List.append_eq_nil_iff.1 empty).1
    · omega
  rw [cut, dif_neg whole]
  rcases full with rfl | rfl
  · rw [List.append_nil, List.take_of_length_le fits, List.drop_of_length_le fits]
  · rw [List.take_left, List.drop_left]

theorem cut_of_ne_nil (positive : 0 < size) {items : List α} (nonempty : items ≠ []) :
    cut size items = items.take size :: cut size (items.drop size) := by
  rw [cut, dif_neg]
  rintro (empty | zero)
  · exact nonempty empty
  · omega

theorem flatten_cut (positive : 0 < size) (items : List α) : (cut size items).flatten = items := by
  induction items using cut.induct size with
  | case1 items whole =>
      rcases whole with rfl | zero
      · rw [cut_nil, List.flatten_nil]
      · omega
  | case2 items some ih =>
      rw [cut_of_ne_nil positive fun empty => some (.inl empty), List.flatten_cons, ih, List.take_append_drop]

/-- There are as many pieces as the size goes into the number of items, rounded up. -/
theorem length_cut (positive : 0 < size) (items : List α) :
    (cut size items).length = (items.length + size - 1) / size := by
  induction items using cut.induct size with
  | case1 items whole =>
      rcases whole with rfl | zero
      · rw [cut_nil, List.length_nil, List.length_nil, Nat.div_eq_of_lt (by omega)]
      · omega
  | case2 items some ih =>
      have nonempty : items ≠ [] := fun empty => some (.inl empty)
      have length := List.length_pos_iff.2 nonempty
      rw [cut_of_ne_nil positive nonempty, List.length_cons, ih, List.length_drop]
      by_cases last : items.length ≤ size
      · rw [Nat.div_eq_of_lt (by omega), show items.length + size - 1 = items.length - 1 + size by omega,
          Nat.add_div_right _ positive, Nat.div_eq_of_lt (by omega)]
      · rw [show items.length + size - 1 = items.length - size + size - 1 + size by omega,
          Nat.add_div_right _ positive]

/-- Only one way of cutting leaves pieces of a size. -/
theorem Pieces.eq_cut {pieces : List (List α)} (cutUp : Pieces size pieces) :
    pieces = cut size pieces.flatten := by
  induction pieces with
  | nil => exact cut_nil.symm
  | cons piece rest ih =>
      obtain ⟨full, bounded⟩ := cutUp
      obtain ⟨nonempty, fits⟩ := bounded piece List.mem_cons_self
      have others : Pieces size rest := by
        constructor
        · intro other later
          cases rest with
          | nil => cases later
          | cons second rest => exact full other (List.mem_cons_of_mem _ later)
        · intro other later
          exact bounded other (List.mem_cons_of_mem _ later)
      have last : rest.flatten = [] ∨ piece.length = size := by
        cases rest with
        | nil => exact .inl rfl
        | cons second rest => exact .inr (full piece List.mem_cons_self)
      rw [List.flatten_cons, cut_cons _ nonempty fits last, ← ih others]

/-- Behind full pieces one more may be cut. -/
theorem Pieces.concat {pieces : List (List α)} {piece : List α} (full : ∀ other ∈ pieces, other.length = size)
    (nonempty : piece ≠ []) (fits : piece.length ≤ size) : Pieces size (pieces ++ [piece]) := by
  have positive := List.length_pos_iff.2 nonempty
  constructor
  · rw [List.dropLast_concat]
    exact full
  · intro other inside
    rcases List.mem_append.1 inside with before | last
    · have length := full other before
      exact ⟨List.length_pos_iff.1 (by omega), Nat.le_of_eq length⟩
    · rw [List.mem_singleton.1 last]
      exact ⟨nonempty, fits⟩

theorem pieces_cut (positive : 0 < size) (items : List α) : Pieces size (cut size items) := by
  induction items using cut.induct size with
  | case1 items whole =>
      rcases whole with rfl | zero
      · rw [cut_nil]
        exact ⟨nofun, nofun⟩
      · omega
  | case2 items some ih =>
      have nonempty : items ≠ [] := fun empty => some (.inl empty)
      rw [cut_of_ne_nil positive nonempty]
      constructor
      · intro piece inside
        by_cases more : cut size (items.drop size) = []
        · rw [more] at inside
          cases inside
        · rw [List.dropLast_cons_of_ne_nil more] at inside
          rcases List.mem_cons.1 inside with rfl | later
          · have left : items.drop size ≠ [] := fun none => more (none ▸ cut_nil)
            rw [List.length_take]
            have := List.length_pos_iff.2 left
            rw [List.length_drop] at this
            omega
          · exact ih.full piece later
      · intro piece inside
        rcases List.mem_cons.1 inside with rfl | later
        · have length := List.length_pos_iff.2 nonempty
          refine ⟨List.length_pos_iff.1 ?_, List.length_take_le _ _⟩
          rw [List.length_take]
          omega
        · exact ih.bounded piece later

end Cutting

/-! ## The loads of a sender -/

/-- What was drained, drain by drain: the batches handed over, and what is on its way to the sink. -/
def Sender.loads (sender : Sender) : List (List Event) :=
  sender.batches.map Batch.events ++
    match sender.place with
    | .counting events => [events]
    | .offering events => [events]
    | _ => []

/-- The loads are full ones until nothing more will come. -/
structure Loaded (most : Nat) (state : State) : Prop where
  pieces : Pieces most state.sender.loads
  full : Exhausted state ∨ ∀ load ∈ state.sender.loads, load.length = most

theorem Loaded.start (settings : Settings) (files : List SourceFile) (most : Nat) :
    Loaded most (State.start settings files) where
  pieces := ⟨nofun, nofun⟩
  full := .inr nofun

/-- A drain adds one load, or finds nothing. Every other move leaves the loads as they are. -/
theorem Sender.Moves.same_or_loaded {tuning : Sender.Tuning} {sender after : Sender} {shared later : Shared}
    (moves : sender.Moves tuning shared after later) (fit : after.Fit tuning.maxBatch) :
    after.loads = sender.loads ∨
      sender.place = .taking ∧ later = (shared.drain tuning.maxBatch).2 ∧
        shared.queue.taken tuning.maxBatch ≠ [] ∧
        after.loads = sender.loads ++ [shared.queue.taken tuning.maxBatch] := by
  cases moves with
  | turned before => exact .inl (by simp [loads, batches, before])
  | @decided _ phase before decision =>
      refine .inl ?_
      rw [loads, loads, batches, batches, handed_enter, before]
      cases phase <;> rfl
  | drained before =>
      by_cases none : shared.queue.taken tuning.maxBatch = []
      · exact .inl (by simp [loads, batches, before, none])
      · exact .inr ⟨before, rfl, none, by simp [loads, batches, before, none]⟩
  | counted before => exact .inl (by simp [loads, batches, before])
  | refused before made => exact fit.elim
  | offered before made => exact .inl (by simp [loads, batches, before, Batch.events_of_make made])
  | recorded before => exact .inl (by simp [loads, batches, before])
  | rested before => exact .inl (by simp [loads, batches, before])

theorem Loaded.of_loads {most : Nat} (loaded : Loaded most state)
    (same : next.sender.loads = state.sender.loads) (exhausted : Exhausted state → Exhausted next) :
    Loaded most next where
  pieces := by
    rw [same]
    exact loaded.pieces
  full := by
    rw [same]
    exact loaded.full.imp_left exhausted

/-- A drain takes a full load, or all that will ever come. -/
theorem Reachable.full_or_exhausted (accepted : settings.Accepted)
    (fits : settings.maxBatch ≤ settings.lowThreshold) (reached : Reachable settings files state)
    (taking : state.sender.place = .taking) (sender : Sender) :
    (state.shared.queue.taken settings.maxBatch).length = settings.maxBatch ∨
      Exhausted { state with sender := sender, shared := (state.shared.drain settings.maxBatch).2 } := by
  have holds := (reached.aware accepted).holds
  rw [taking] at holds
  rw [Queue.taken_eq_take, List.length_take]
  by_cases enough : settings.maxBatch ≤ state.shared.queue.events.toList.length
  · exact .inl (Nat.min_eq_left enough)
  · rcases holds with ended | worth
    · have finished := (reached.aware accepted).exhausted_iff.1 ended
      refine .inr ⟨finished, ((reached.regulated accepted).aligned.finished finished).1, ?_⟩
      rw [Shared.queue_drain, Queue.toList_drain, List.drop_of_length_le (Nat.le_of_not_le enough)]
    · -- Below a full load the sender would not have begun to drain.
      rw [Queue.depth, Fifo.size_eq_length] at worth
      omega

theorem Loaded.send (accepted : settings.Accepted) (fits : settings.maxBatch ≤ settings.lowThreshold)
    (course : Course settings files lines state) {sender : Sender} {shared : Shared}
    (moved : state.sender.step settings.tuning state.shared = some (sender, shared))
    (loaded : Loaded settings.maxBatch state) :
    Loaded settings.maxBatch { state with sender := sender, shared := shared } := by
  have moves := Sender.moves_of_step moved
  have exhausted : Exhausted state → Exhausted { state with sender := sender, shared := shared } :=
    fun exhausted => exhausted.step (.send moved)
  rcases moves.same_or_loaded ((Course.send course moved).fit accepted) with same | ⟨taking, rfl, nonempty, grown⟩
  · exact loaded.of_loads same exhausted
  · have earlier : ∀ load ∈ state.sender.loads, load.length = settings.maxBatch := by
      refine loaded.full.resolve_left fun done => nonempty ?_
      rw [Queue.taken_eq_take, done.empty, List.take_nil]
    have small : (state.shared.queue.taken settings.maxBatch).length ≤ settings.maxBatch := by
      rw [Queue.taken_eq_take]
      exact List.length_take_le _ _
    constructor
    · dsimp only
      rw [grown]
      exact Pieces.concat earlier nonempty small
    · refine (course.reachable.full_or_exhausted accepted fits taking sender).symm.imp_right fun full => ?_
      intro load inside
      dsimp only at inside
      rw [grown] at inside
      rcases List.mem_append.1 inside with before | last
      · exact earlier load before
      · rw [List.mem_singleton.1 last]
        exact full

theorem Course.loaded (accepted : settings.Accepted) (fits : settings.maxBatch ≤ settings.lowThreshold)
    (course : Course settings files lines state) : Loaded settings.maxBatch state := by
  induction course with
  | start => exact .start settings files settings.maxBatch
  | read _ moved ih =>
      have step : Step settings.tuning _ _ := .read moved
      exact ih.of_loads rfl fun exhausted => exhausted.step step
  | send earlier moved ih => exact ih.send accepted fits earlier moved
  | @hear _ state batch outcome _ awaited ih =>
      have step : Step settings.tuning state _ := .hear outcome awaited
      have same : Sender.loads (state.sender.hear batch outcome) = state.sender.loads := by
        simp [Sender.loads, Sender.batches, Sender.hear, awaited]
      exact ih.of_loads same fun exhausted => exhausted.step step

/-! ## The batches of a finished run -/

theorem Sender.Moves.same_or_made {tuning : Sender.Tuning} {sender after : Sender} {shared later : Shared}
    (moves : sender.Moves tuning shared after later) :
    after.handed = sender.handed ∨
      ∃ batch, Batch.make tuning.table batch.events = .ok batch ∧ after.handed = batch :: sender.handed := by
  cases moves with
  | turned => exact .inl rfl
  | decided => exact .inl (handed_enter _ _ _)
  | drained => exact .inl rfl
  | counted => exact .inl rfl
  | refused => exact .inl rfl
  | @offered events batch before made =>
      refine .inr ⟨batch, ?_, rfl⟩
      rw [Batch.events_of_make made]
      exact made
  | recorded => exact .inl rfl
  | rested => exact .inl rfl

/-- Every batch handed to the sink is what its events make for the table of the settings. -/
theorem Course.made (course : Course settings files lines state) :
    ∀ batch ∈ state.sender.batches, Batch.make settings.table batch.events = .ok batch := by
  simp only [Sender.batches, List.mem_reverse]
  induction course with
  | start =>
      intro batch inside
      cases inside
  | read _ _ ih => exact ih
  | send _ moved ih =>
      intro batch inside
      rcases (Sender.moves_of_step moved).same_or_made with same | ⟨first, made, grown⟩
      · rw [same] at inside
        exact ih batch inside
      · rw [grown] at inside
        rcases List.mem_cons.1 inside with rfl | earlier
        · exact made
        · exact ih batch earlier
  | hear _ _ _ ih => exact ih

/-- Batches for one table are known from their events. -/
theorem eq_of_events_eq (table : String) {batches others : List Batch}
    (made : ∀ batch ∈ batches, Batch.make table batch.events = .ok batch)
    (madeToo : ∀ batch ∈ others, Batch.make table batch.events = .ok batch)
    (same : batches.map Batch.events = others.map Batch.events) : batches = others := by
  induction batches generalizing others with
  | nil =>
      rw [List.map_nil, eq_comm, List.map_eq_nil_iff] at same
      exact same.symm
  | cons batch batches ih =>
      cases others with
      | nil => cases same
      | cons other others =>
          obtain ⟨first, rest⟩ := List.cons.inj same
          have head : (.ok batch : Except Refusal Batch) = .ok other := by
            rw [← made batch List.mem_cons_self, ← madeToo other List.mem_cons_self]
            exact congrArg (Batch.make table) first
          have tail : batches = others :=
            ih (fun batch inside => made batch (List.mem_cons_of_mem _ inside))
              (fun batch inside => madeToo batch (List.mem_cons_of_mem _ inside)) rest
          rw [Except.ok.inj head, tail]

/-- The loads of a finished run are its batches. -/
theorem Sender.loads_of_complete {sender : Sender} (complete : sender.place = .complete) :
    sender.loads = sender.batches.map Batch.events := by
  rw [loads, complete, List.append_nil]

/-- The loads of a finished run hold the events of the files. -/
theorem Course.flatten_loads (accepted : settings.Accepted) (course : Course settings files lines state)
    (complete : state.sender.place = .complete) :
    state.sender.loads.flatten = eventsOf (linesOfFiles files) := by
  obtain ⟨done, all⟩ := course.exhausted_of_complete accepted complete
  have unloaded : state.sender.carried = [] := by rw [Sender.carried, complete]
  have whole := course.passedOn_append_held accepted
  rw [State.passedOn, unloaded, done.empty, done.nothing, all] at whole
  rw [Sender.loads_of_complete complete, ← List.flatMap_def]
  simpa [Intake.Held.events, Sender.handedEvents] using whole

theorem Course.events_of_batches (accepted : settings.Accepted)
    (fits : settings.maxBatch ≤ settings.lowThreshold) (course : Course settings files lines state)
    (complete : state.sender.place = .complete) :
    state.sender.batches.map Batch.events = cut settings.maxBatch (eventsOf (linesOfFiles files)) := by
  rw [← Sender.loads_of_complete complete, ← course.flatten_loads accepted complete]
  exact (course.loaded accepted fits).pieces.eq_cut

/-- Batches depend neither on timing nor on what the sink says. When a run has come to its end, its batches
are the events of the files cut into pieces of the largest size, all full but perhaps the last; and any other
run to its end hands over the same batches. -/
theorem Course.batches_eq_cut (accepted : settings.Accepted)
    (fits : settings.maxBatch ≤ settings.lowThreshold) (course : Course settings files lines state)
    (complete : state.sender.place = .complete) :
    state.sender.batches.map Batch.events = cut settings.maxBatch (eventsOf (linesOfFiles files)) ∧
      (∀ batch ∈ state.sender.batches.dropLast, batch.size = settings.maxBatch) ∧
      (∀ batch ∈ state.sender.batches, 0 < batch.size ∧ batch.size ≤ settings.maxBatch) ∧
      ∀ otherLines other, Course settings files otherLines other → other.sender.place = .complete →
        other.sender.batches = state.sender.batches := by
  have pieces := course.events_of_batches accepted fits complete
  obtain ⟨full, bounded⟩ := (course.loaded accepted fits).pieces
  rw [Sender.loads_of_complete complete] at full bounded
  refine ⟨pieces, ?_, ?_, ?_⟩
  · intro batch early
    rw [← List.map_dropLast] at full
    exact full batch.events (List.mem_map_of_mem early)
  · intro batch inside
    obtain ⟨nonempty, small⟩ := bounded batch.events (List.mem_map_of_mem inside)
    exact ⟨List.length_pos_iff.2 nonempty, small⟩
  · intro otherLines other otherCourse otherComplete
    have same : other.sender.batches.map Batch.events = state.sender.batches.map Batch.events := by
      rw [otherCourse.events_of_batches accepted fits otherComplete, pieces]
    exact eq_of_events_eq settings.table otherCourse.made course.made same

def Settings.paired : Settings :=
  { Settings.narrow with maxBatch := 2, lowThreshold := 2 }

def pairedRun (outcome : Outcome) (fuel : Nat) : State :=
  ((State.start .paired troubledFiles).proceed (m := Id) Settings.paired.tuning
    (fun _ shared => (outcome, shared)) fuel).1

/-- Five events in batches of two, from a sink that takes none of them and from one that takes all. -/
theorem Course.batches_eq_cut_pairedRun :
    Settings.paired.Accepted ∧ Settings.paired.maxBatch ≤ Settings.paired.lowThreshold ∧
      (∃ lines, Course .paired troubledFiles lines (pairedRun (.error (.rejected "full")) 57)) ∧
      (pairedRun (.error (.rejected "full")) 57).sender.place = .complete ∧
      (pairedRun (.error (.rejected "full")) 57).sender.batches.map Batch.size = [2, 2, 1] ∧
      (pairedRun (.error (.rejected "full")) 57).sender.batches.map Batch.events =
        cut 2 (eventsOf (linesOfFiles troubledFiles)) ∧
      (pairedRun (.ok .null) 57).sender.batches =
        (pairedRun (.error (.rejected "full")) 57).sender.batches := by
  have accepted : Settings.paired.Accepted := by decide +kernel
  have fits : Settings.paired.maxBatch ≤ Settings.paired.lowThreshold := by decide
  have complete (outcome : Outcome) (found : (pairedRun outcome 57).sender.place.isComplete = true) :
      (pairedRun outcome 57).sender.place = .complete := Sender.Place.isComplete_iff.1 found
  obtain ⟨lines, course⟩ : ∃ lines, Course .paired troubledFiles lines
      (pairedRun (.error (.rejected "full")) 57) := Course.start.proceed _ 57
  obtain ⟨otherLines, other⟩ : ∃ lines, Course .paired troubledFiles lines (pairedRun (.ok .null) 57) :=
    Course.start.proceed _ 57
  have refused := complete (.error (.rejected "full")) (by decide +kernel)
  have taken := complete (.ok .null) (by decide +kernel)
  obtain ⟨pieces, _, _, same⟩ := Course.batches_eq_cut accepted fits course refused
  refine ⟨accepted, fits, ⟨lines, course⟩, refused, ?_, pieces, same otherLines _ other taken⟩
  decide +kernel

end EventFeed.Flow
