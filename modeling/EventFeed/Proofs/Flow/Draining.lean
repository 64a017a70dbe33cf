import EventFeed.Proofs.Flow.Balance
import EventFeed.Proofs.Flow.Batching
import EventFeed.Proofs.Flow.Log
import EventFeed.Proofs.Flow.Turn

/-!
# Draining

When reading is over, the queue only shrinks, by one batch in each turn of the sender. A turn takes seven steps
and one call of the sink. So the sender cuts what waits into batches, however small the last one is and whatever
the sink says, and comes to its end after a number of steps that the queue alone decides.
-/

namespace EventFeed.Flow

variable {settings : Settings} {files : List SourceFile} {tuning : Sender.Tuning} {first state next : State}
  {log : Log}

/-- The end mark is set, and the reading side has nothing left to hand over. -/
structure ReadingDone (state : State) : Prop where
  mark : state.shared.exhausted = true
  finished : state.intake.reader.place = .finished
  nothing : state.intake.held = .nothing

theorem Reachable.readingDone (accepted : settings.Accepted) (reached : Reachable settings files state)
    (mark : state.shared.exhausted = true) : ReadingDone state := by
  have finished := (reached.aware accepted).exhausted_iff.1 mark
  exact ⟨mark, finished, ((reached.regulated accepted).aligned.finished finished).1⟩

/-! ## Where the sender is -/

namespace Sender.Place

/-- What is so at a place once the end mark has been seen. -/
def AtEnd (depth : Nat) : Place → Prop
  | .looking exhausted => exhausted = true
  | .taking => 0 < depth
  | .resting => False
  | .complete => depth = 0
  | _ => True

/-- The load that was drained and not handed over. -/
def load : Place → List (List Event)
  | .counting events => [events]
  | .offering events => [events]
  | _ => []

/-- Turns that were begun and came to no call yet. -/
def begun : Place → Nat
  | .taking => 1
  | .counting _ => 1
  | .offering _ => 1
  | _ => 0

def closing : Place → List Phase
  | .complete => [.complete]
  | _ => []

/-- Steps from here to the next drain, or to the end. -/
def ahead : Place → Nat
  | .counting _ => 6
  | .offering _ => 5
  | .awaiting _ => 4
  | .recording _ _ => 3
  | .ready => 2
  | .looking _ => 1
  | _ => 0

end Sender.Place

/-- How far the sender has come with what waited at the beginning. -/
structure Draining (tuning : Sender.Tuning) (first : State) (log : Log) (state : State) : Prop where
  done : ReadingDone state
  fit : state.sender.Fit tuning.maxBatch
  place : state.sender.place.AtEnd state.shared.queue.depth
  pieces : log.batches.map Batch.events ++
      (state.sender.place.load ++ cut tuning.maxBatch state.shared.queue.events.toList) =
    cut tuning.maxBatch first.shared.queue.events.toList
  phases : log.phases =
    state.sender.place.closing ++ List.replicate (log.batches.length + state.sender.place.begun) .draining
  rests : log.rests = 0
  steps : log.steps + (7 * (cut tuning.maxBatch state.shared.queue.events.toList).length +
      state.sender.place.ahead) = 7 * (cut tuning.maxBatch first.shared.queue.events.toList).length + 2

theorem Draining.start (done : ReadingDone first) (ready : first.sender.place = .ready) :
    Draining tuning first .start first where
  done := done
  fit := by
    rw [Sender.Fit, ready]
    trivial
  place := by
    rw [ready]
    trivial
  pieces := by
    rw [ready]
    rfl
  phases := by
    rw [ready]
    rfl
  rests := rfl
  steps := by
    rw [ready]
    exact Nat.zero_add _

theorem Log.batches_note (log : Log) (shared : Shared) {sender : Sender} {events : List Event} {batch : Batch}
    (before : sender.place = .offering events) (made : Batch.make tuning.table events = .ok batch) :
    (log.note tuning sender shared).batches = log.batches ++ [batch] := by
  simp [note, before, made, batches]

section Moves

variable {sender : Sender} {shared : Shared}

/-- When something waits, the sender decides on a drain. -/
theorem Draining.begin (draining : Draining tuning first log state) (before : state.sender.place = .looking true)
    (waiting : 0 < state.shared.queue.depth) (place : sender.place = .taking)
    (sameQueue : shared.queue = state.shared.queue) (sameEnd : shared.exhausted = state.shared.exhausted) :
    Draining tuning first (log.note tuning state.sender state.shared)
      { state with sender := sender, shared := shared } := by
  obtain ⟨⟨mark, finished, nothing⟩, _, _, pieces, phases, rests, steps⟩ := draining
  have decision : Phase.decide state.shared.queue.depth true tuning.lowThreshold = .draining := by
    rw [Phase.decide, if_neg (Nat.ne_of_gt waiting)]
    rfl
  simp only [before] at pieces phases steps
  simp only [Log.note, before, decision]
  refine ⟨⟨sameEnd.trans mark, finished, nothing⟩, ?_, ?_, ?_, ?_, rests, ?_⟩
  · simp only [Sender.Fit, place]
  · simp only [place, sameQueue]
    exact waiting
  · simp only [place, sameQueue]
    exact pieces
  · simp only [place]
    exact congrArg (Phase.draining :: ·) phases
  · simp only [place, sameQueue]
    dsimp only [Sender.Place.ahead] at steps ⊢
    omega

/-- When nothing waits, it decides on the end. -/
theorem Draining.close (draining : Draining tuning first log state) (before : state.sender.place = .looking true)
    (none : state.shared.queue.depth = 0) (place : sender.place = .complete)
    (sameQueue : shared.queue = state.shared.queue) (sameEnd : shared.exhausted = state.shared.exhausted) :
    Draining tuning first (log.note tuning state.sender state.shared)
      { state with sender := sender, shared := shared } := by
  obtain ⟨⟨mark, finished, nothing⟩, _, _, pieces, phases, rests, steps⟩ := draining
  have decision : Phase.decide state.shared.queue.depth true tuning.lowThreshold = .complete :=
    (Phase.decide_eq_complete_iff _ _ _).2 ⟨none, rfl⟩
  simp only [before] at pieces phases steps
  simp only [Log.note, before, decision]
  refine ⟨⟨sameEnd.trans mark, finished, nothing⟩, ?_, ?_, ?_, ?_, rests, ?_⟩
  · simp only [Sender.Fit, place]
  · simp only [place, sameQueue]
    exact none
  · simp only [place, sameQueue]
    exact pieces
  · simp only [place]
    exact congrArg (Phase.complete :: ·) phases
  · simp only [place, sameQueue]
    dsimp only [Sender.Place.ahead] at steps ⊢
    omega

/-- A drain takes the first piece of what waits. -/
theorem Draining.drain (positive : 0 < tuning.maxBatch) (draining : Draining tuning first log state)
    (before : state.sender.place = .taking) :
    Draining tuning first (log.note tuning state.sender state.shared)
      { state with
        sender := { state.sender with
          place := if state.shared.queue.taken tuning.maxBatch = [] then .ready
            else .counting (state.shared.queue.taken tuning.maxBatch) }
        shared := (state.shared.drain tuning.maxBatch).2 } := by
  obtain ⟨⟨mark, finished, nothing⟩, _, waiting, pieces, phases, rests, steps⟩ := draining
  simp only [before] at waiting pieces phases steps
  have nonempty : state.shared.queue.events.toList ≠ [] := by
    rw [← List.length_pos_iff, ← Fifo.size_eq_length]
    exact waiting
  have taken : state.shared.queue.taken tuning.maxBatch ≠ [] := by
    rw [Queue.taken_eq_take, Ne, List.take_eq_nil_iff, not_or]
    exact ⟨Nat.ne_of_gt positive, nonempty⟩
  have cutUp := cut_of_ne_nil positive nonempty
  rw [← Queue.taken_eq_take, ← Queue.toList_drain] at cutUp
  rw [cutUp] at pieces steps
  simp only [Log.note, before, if_neg taken]
  refine ⟨⟨(Shared.exhausted_drain _ _).trans mark, finished, nothing⟩, ?_, trivial, ?_, phases, rests, ?_⟩
  · refine ⟨taken, ?_⟩
    rw [Queue.taken_eq_take]
    exact List.length_take_le _ _
  · rw [Shared.queue_drain]
    exact pieces
  · dsimp only [Sender.Place.ahead, List.length_cons] at steps ⊢
    rw [Shared.queue_drain]
    omega

/-- A call hands the load over. -/
theorem Draining.offer {events : List Event} {batch : Batch} (draining : Draining tuning first log state)
    (before : state.sender.place = .offering events) (made : Batch.make tuning.table events = .ok batch) :
    Draining tuning first (log.note tuning state.sender state.shared)
      { state with
        sender := { state.sender with place := .awaiting batch, handed := batch :: state.sender.handed } } := by
  obtain ⟨done, _, _, pieces, phases, rests, steps⟩ := draining
  have grown := log.batches_note state.shared before made
  simp only [before] at pieces phases steps
  refine ⟨⟨done.mark, done.finished, done.nothing⟩, trivial, trivial, ?_, ?_, ?_, ?_⟩
  · rw [grown, List.map_append, List.append_assoc, List.map_singleton, Batch.events_of_make made]
    exact pieces
  · rw [grown, List.length_append]
    simp only [Log.note, before, made]
    exact phases
  · simpa only [Log.note, before, made] using rests
  · simp only [Log.note, before, made]
    dsimp only [Sender.Place.ahead] at steps ⊢
    omega

/-- Every move of the sender keeps to the cut. -/
theorem Draining.send {name : TableName} (named : TableName.check tuning.table = .ok name)
    (positive : 0 < tuning.maxBatch) (small : tuning.maxBatch ≤ maxBatchSize)
    (draining : Draining tuning first log state)
    (moves : state.sender.Moves tuning state.shared sender shared) :
    Draining tuning first (log.note tuning state.sender state.shared)
      { state with sender := sender, shared := shared } := by
  have fit := moves.fit named small draining.fit
  cases moves with
  | turned before =>
      obtain ⟨⟨mark, finished, nothing⟩, _, _, pieces, phases, rests, steps⟩ := draining
      simp only [before] at pieces phases steps
      simp only [Log.note, before]
      refine ⟨⟨mark, finished, nothing⟩, fit, mark, pieces, phases, rests, ?_⟩
      dsimp only [Sender.Place.ahead] at steps ⊢
      omega
  | @decided exhausted phase before decision =>
      obtain ⟨sameQueue, _, sameEnd⟩ := Sender.frame_enter state.sender state.shared phase
      have seen := draining.place
      rw [before] at seen
      obtain rfl : exhausted = true := seen
      rcases Nat.eq_zero_or_pos state.shared.queue.depth with none | waiting
      · obtain rfl : Phase.complete = phase := by rw [← decision, none]; rfl
        exact draining.close before none rfl sameQueue sameEnd
      · obtain rfl : Phase.draining = phase := by
          rw [← decision, Phase.decide, if_neg (Nat.ne_of_gt waiting)]
          rfl
        exact draining.begin before waiting rfl sameQueue sameEnd
  | drained before => exact draining.drain positive before
  | counted before =>
      obtain ⟨done, _, _, pieces, phases, rests, steps⟩ := draining
      simp only [before] at pieces phases steps
      simp only [Log.note, before]
      refine ⟨⟨done.mark, done.finished, done.nothing⟩, fit, trivial, pieces, phases, rests, ?_⟩
      dsimp only [Sender.Place.ahead, Shared.recordConsumed] at steps ⊢
      omega
  | refused before made => exact fit.elim
  | offered before made => exact draining.offer before made
  | @recorded count outcome before =>
      obtain ⟨⟨mark, finished, nothing⟩, _, _, pieces, phases, rests, steps⟩ := draining
      obtain ⟨sameQueue, _, sameEnd⟩ := Sender.frame_record state.shared count outcome
      simp only [before] at pieces phases steps
      simp only [Log.note, before]
      refine ⟨⟨sameEnd.trans mark, finished, nothing⟩, fit, trivial, ?_, phases, rests, ?_⟩
      · dsimp only
        rw [sameQueue]
        exact pieces
      · dsimp only [Sender.Place.ahead] at steps ⊢
        rw [sameQueue]
        omega
  | rested before =>
      have never := draining.place
      rw [before] at never
      exact never.elim

end Moves

theorem Draining.hear {batch : Batch} (outcome : Outcome) (draining : Draining tuning first log state)
    (awaited : state.sender.place = .awaiting batch) :
    Draining tuning first (log.note tuning state.sender state.shared)
      { state with sender := state.sender.hear batch outcome } := by
  obtain ⟨done, _, _, pieces, phases, rests, steps⟩ := draining
  simp only [awaited] at pieces phases steps
  simp only [Log.note, awaited]
  refine ⟨⟨done.mark, done.finished, done.nothing⟩, trivial, trivial, pieces, phases, rests, ?_⟩
  dsimp only [Sender.Place.ahead, Sender.hear] at steps ⊢
  omega

theorem Logged.draining {name : TableName} (named : TableName.check tuning.table = .ok name)
    (positive : 0 < tuning.maxBatch) (small : tuning.maxBatch ≤ maxBatchSize) (done : ReadingDone first)
    (ready : first.sender.place = .ready) (logged : Logged tuning first log state) :
    Draining tuning first log state := by
  induction logged with
  | start => exact .start done ready
  | read _ moved ih =>
      rw [Intake.step_eq_none ih.done.finished ih.done.nothing] at moved
      cases moved
  | send _ moved ih => exact ih.send named positive small (Sender.moves_of_step moved)
  | hear outcome _ awaited ih => exact ih.hear outcome awaited

/-- The sender may go on until it is at its end. -/
theorem Draining.exists_step_iff {name : TableName} (named : TableName.check tuning.table = .ok name)
    (small : tuning.maxBatch ≤ maxBatchSize) (draining : Draining tuning first log state) :
    (∃ next, Step tuning state next) ↔ state.sender.place ≠ .complete := by
  have fit := draining.fit
  have place := draining.place
  constructor
  · rintro ⟨next, step⟩ complete
    cases step with
    | read moved =>
        rw [Intake.step_eq_none draining.done.finished draining.done.nothing] at moved
        cases moved
    | send moved =>
        rw [Sender.step, complete] at moved
        cases moved
    | hear outcome awaited =>
        rw [complete] at awaited
        cases awaited
  · intro going
    cases before : state.sender.place with
    | ready => exact ⟨_, .of_moves (.turned before)⟩
    | looking exhausted => exact ⟨_, .of_moves (.decided before rfl)⟩
    | taking => exact ⟨_, .of_moves (.drained before)⟩
    | counting events => exact ⟨_, .of_moves (.counted before)⟩
    | offering events =>
        rw [Sender.Fit, before] at fit
        exact ⟨_, .of_moves (.offered before (Batch.make_of_check named fit.1 (Nat.le_trans fit.2 small)))⟩
    | awaiting batch => exact ⟨_, .hear (.ok .null) before⟩
    | recording count outcome => exact ⟨_, .of_moves (.recorded before)⟩
    | resting =>
        rw [before] at place
        exact place.elim
    | complete => exact absurd before going
    | aborted refusal =>
        rw [Sender.Fit, before] at fit
        exact fit.elim

/-- The end is reached after as many steps as the queue asks for, neither earlier nor later. -/
theorem Draining.complete_iff (positive : 0 < tuning.maxBatch) (draining : Draining tuning first log state) :
    state.sender.place = .complete ↔
      log.steps = 7 * (cut tuning.maxBatch first.shared.queue.events.toList).length + 2 := by
  have fit := draining.fit
  have place := draining.place
  have steps := draining.steps
  have depth := Fifo.size_eq_length state.shared.queue.events
  rw [Sender.Fit] at fit
  cases before : state.sender.place with
  | complete =>
      rw [before] at place steps
      have empty : state.shared.queue.events.toList = [] := List.length_eq_zero_iff.1 (depth.symm.trans place)
      rw [empty, cut_nil] at steps
      exact iff_of_true rfl steps
  | taking =>
      rw [before] at place steps
      have nonempty : state.shared.queue.events.toList ≠ [] :=
        List.length_pos_iff.1 (Nat.lt_of_lt_of_eq place depth)
      rw [cut_of_ne_nil positive nonempty, List.length_cons] at steps
      refine iff_of_false ?_ (by omega)
      rintro ⟨⟩
  | resting =>
      rw [before] at place
      exact place.elim
  | aborted =>
      rw [before] at fit
      exact fit.elim
  | _ =>
      rw [before] at steps
      dsimp only [Sender.Place.ahead] at steps
      refine iff_of_false ?_ (by omega)
      rintro ⟨⟩

/-- What drained a queue, from a state that was ready to the end. -/
structure Drained (tuning : Sender.Tuning) (first : State) (log : Log) (state : State) : Prop where
  /-- The calls of the sink were made for the pieces of what waited, in order. -/
  handed : state.sender.batches = first.sender.batches ++ log.batches
  pieces : log.batches.map Batch.events = cut tuning.maxBatch first.shared.queue.events.toList
  whole : log.batches.flatMap Batch.events = first.shared.queue.events.toList
  full : ∀ batch ∈ log.batches.dropLast, batch.size = tuning.maxBatch
  bounded : ∀ batch ∈ log.batches, 0 < batch.size ∧ batch.size ≤ tuning.maxBatch
  table : ∀ batch ∈ log.batches, batch.table.text = tuning.table
  /-- Every call was made in a turn of its own, and no turn was spent on a rest. -/
  phases : log.phases.reverse = List.replicate log.batches.length .draining ++ [.complete]
  rests : log.rests = 0
  empty : state.shared.queue.events.toList = []
  /-- The counts have grown by what waited. -/
  consumed : state.shared.progress.eventsConsumed =
    first.shared.progress.eventsConsumed + UInt64.ofNat first.shared.queue.depth
  settled : state.shared.progress.eventsDelivered + state.shared.progress.eventsFailed =
    first.shared.progress.eventsDelivered + first.shared.progress.eventsFailed +
      UInt64.ofNat first.shared.queue.depth

theorem Logged.conserves {name : TableName} (named : TableName.check tuning.table = .ok name)
    (positive : 0 < tuning.maxBatch) (small : tuning.maxBatch ≤ maxBatchSize) (done : ReadingDone first)
    (ready : first.sender.place = .ready) (logged : Logged tuning first log state) :
    first.sender.Conserves first.shared state.sender state.shared := by
  induction logged with
  | start => exact ⟨rfl, rfl, rfl, rfl, rfl, rfl⟩
  | read earlier moved ih =>
      have draining := earlier.draining named positive small done ready
      rw [Intake.step_eq_none draining.done.finished draining.done.nothing] at moved
      cases moved
  | send earlier moved ih =>
      have moves := Sender.moves_of_step moved
      have fit := (earlier.draining named positive small done ready).fit
      exact ih.trans (moves.conserves (moves.fit named small fit))
  | hear outcome _ awaited ih => exact ih.trans (Sender.conserves_hear _ outcome awaited)

theorem Logged.drained {name : TableName} (named : TableName.check tuning.table = .ok name)
    (positive : 0 < tuning.maxBatch) (small : tuning.maxBatch ≤ maxBatchSize) (done : ReadingDone first)
    (ready : first.sender.place = .ready) (logged : Logged tuning first log state)
    (complete : state.sender.place = .complete) : Drained tuning first log state := by
  have draining := logged.draining named positive small done ready
  obtain ⟨_, _, _, consumed, settled, _⟩ := logged.conserves named positive small done ready
  have depth : state.shared.queue.depth = 0 := by
    have place := draining.place
    rwa [complete] at place
  have empty : state.shared.queue.events.toList = [] :=
    List.length_eq_zero_iff.1 ((Fifo.size_eq_length _).symm.trans depth)
  have pieces : log.batches.map Batch.events = cut tuning.maxBatch first.shared.queue.events.toList := by
    have whole := draining.pieces
    rw [complete, empty, cut_nil] at whole
    simpa only [Sender.Place.load, List.append_nil] using whole
  obtain ⟨full, bounded⟩ := pieces_cut positive first.shared.queue.events.toList
  rw [← pieces] at full bounded
  rw [depth] at consumed settled
  simp only [Sender.uncounted, Sender.unsettled, complete, ready, UInt64.reduceOfNat, UInt64.add_zero]
    at consumed settled
  constructor
  · exact logged.batches_eq
  · exact pieces
  · rw [List.flatMap_def, pieces, flatten_cut positive]
  · intro batch early
    rw [← List.map_dropLast] at full
    exact full batch.events (List.mem_map_of_mem early)
  · intro batch inside
    obtain ⟨nonempty, fits⟩ := bounded batch.events (List.mem_map_of_mem inside)
    exact ⟨List.length_pos_iff.2 nonempty, fits⟩
  · intro batch inside
    rw [Log.batches, List.mem_reverse] at inside
    obtain ⟨dispatch, present, rfl⟩ := List.mem_map.1 inside
    exact Batch.table_of_make (logged.made dispatch present)
  · rw [draining.phases, complete, List.reverse_append, List.reverse_replicate]
    rfl
  · exact draining.rests
  · exact empty
  · exact consumed
  · exact settled

/-- When reading is over, the sender drains what waits, for every number of waiting events, every low threshold
and every outcome of every call. From the beginning of a turn it goes on, and comes to its end after seven steps
for each call of the sink and two more; there are as many calls as there are batches in the queue, rounded up.
Then the queue is cut into these batches, no turn has gone by without a call, and the counts have grown by what
waited. -/
theorem Logged.drains {name : TableName} (named : TableName.check tuning.table = .ok name)
    (positive : 0 < tuning.maxBatch) (small : tuning.maxBatch ≤ maxBatchSize) (done : ReadingDone first)
    (ready : first.sender.place = .ready) (logged : Logged tuning first log state) :
    let calls := (first.shared.queue.depth + tuning.maxBatch - 1) / tuning.maxBatch
    log.steps ≤ 7 * calls + 2 ∧
      ((∃ next, Step tuning state next) ↔ state.sender.place ≠ .complete) ∧
      (state.sender.place = .complete ↔ log.steps = 7 * calls + 2) ∧
      (state.sender.place = .complete → log.batches.length = calls ∧ Drained tuning first log state) := by
  intro calls
  have draining := logged.draining named positive small done ready
  have count : (cut tuning.maxBatch first.shared.queue.events.toList).length = calls := by
    rw [length_cut positive, ← Fifo.size_eq_length]
    rfl
  have steps := draining.steps
  have complete_iff := draining.complete_iff positive
  rw [count] at steps complete_iff
  refine ⟨by omega, draining.exists_step_iff named small, complete_iff, ?_⟩
  intro complete
  have drained := logged.drained named positive small done ready complete
  refine ⟨?_, drained⟩
  rw [← count, ← drained.pieces, List.length_map]

def Settings.patient : Settings :=
  { Settings.narrow with marks := ⟨9, 1⟩, maxBatch := 2, lowThreshold := 9 }

/-- A run that has read all its files before the sender takes its first turn. -/
def readOutRun : Log × State :=
  Log.start.proceed Settings.patient.tuning (fun _ => .ok .null) 34 (State.start .patient troubledFiles)

def readOut : State :=
  readOutRun.2

def drainedRun (fuel : Nat) : Log × State :=
  Log.start.proceed Settings.patient.tuning (fun _ => .error (.rejected "full")) fuel readOut

/-- Five events, fewer than are worth a request, in three calls of two, two and one. -/
theorem Logged.drains_readOut :
    Settings.patient.Accepted ∧ readOut.shared.queue.depth = 5 ∧ ReadingDone readOut ∧
      readOut.sender.place = .ready ∧ (drainedRun 23).1.steps = 23 ∧ (drainedRun 23).1.batches.length = 3 ∧
      Drained Settings.patient.tuning readOut (drainedRun 23).1 (drainedRun 23).2 ∧
      (drainedRun 23).1.batches.map Batch.size = [2, 2, 1] ∧
      (drainedRun 23).2.shared.progress.eventsFailed = 5 := by
  have accepted : Settings.patient.Accepted := by decide +kernel
  obtain ⟨⟨name, named⟩, ⟨positive, small⟩, _⟩ := (Settings.accepted_iff _).1 accepted
  have before : Logged Settings.patient.tuning (State.start .patient troubledFiles) readOutRun.1 readOut :=
    Logged.start.proceed _ 34
  have reached : Reachable .patient troubledFiles readOut := before.steps
  have done : ReadingDone readOut := reached.readingDone accepted (by decide +kernel)
  have ready : readOut.sender.place = .ready := by
    rw [before.sender_eq (by decide +kernel)]
    rfl
  have depth : readOut.shared.queue.depth = 5 := by decide +kernel
  have steps : (drainedRun 23).1.steps = 23 := by decide +kernel
  have logged : Logged Settings.patient.tuning readOut (drainedRun 23).1 (drainedRun 23).2 :=
    Logged.start.proceed _ 23
  obtain ⟨_, _, ended, drained⟩ := Logged.drains named positive small done ready logged
  rw [depth] at ended drained
  obtain ⟨calls, all⟩ := drained (ended.2 steps)
  refine ⟨accepted, depth, done, ready, steps, calls, all, ?_, ?_⟩
  · decide +kernel
  · decide +kernel

end EventFeed.Flow
