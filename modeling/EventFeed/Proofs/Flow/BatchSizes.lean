import EventFeed.Proofs.Flow.Log

/-!
# Sizes of batches

The sender decides from a depth that it has read before it drains, and the reader may go on in between. It can
only add to the queue. So the events that made a batch worth sending are still there when it is taken out, and
a batch that is not full has emptied the queue.
-/

namespace EventFeed.Flow

variable {settings : Settings} {files : List SourceFile} {tuning : Sender.Tuning} {state : State} {log : Log}

/-- A size that a batch may have, by what the sender saw of the end mark and by what its drain left behind. -/
structure Sized (tuning : Sender.Tuning) (size : Nat) (seen : Bool) (left : Nat) : Prop where
  positive : 0 < size
  small : size ≤ tuning.maxBatch
  /-- Before the end a batch is full or worth a request. -/
  worth : seen = false → min tuning.maxBatch (max tuning.lowThreshold 1) ≤ size
  /-- A drain takes less than a full batch only when there is no more. -/
  whole : size < tuning.maxBatch → left = 0

def Log.Tells (tuning : Sender.Tuning) (log : Log) (depth : Nat) : Sender.Place → Prop
  | .looking exhausted => log.seen = exhausted
  | .taking => 0 < depth ∧ (log.seen = false → tuning.lowThreshold ≤ depth)
  | .counting events => Sized tuning events.length log.seen log.left
  | .offering events => Sized tuning events.length log.seen log.left
  | _ => True

/-- The batches of the log have sizes that they may have, and so has what is on its way to the sink. -/
structure Kept (tuning : Sender.Tuning) (log : Log) (state : State) : Prop where
  place : log.Tells tuning state.shared.queue.depth state.sender.place
  dispatched : ∀ dispatch ∈ log.dispatches,
    Sized tuning dispatch.batch.size dispatch.seen dispatch.left

theorem Log.Tells.of_grown {depth later : Nat} {place : Sender.Place} (grown : depth ≤ later)
    (tells : log.Tells tuning depth place) : log.Tells tuning later place := by
  cases place with
  | taking => exact ⟨Nat.lt_of_lt_of_le tells.1 grown, fun opened => Nat.le_trans (tells.2 opened) grown⟩
  | looking => exact tells
  | counting => exact tells
  | offering => exact tells
  | ready => trivial
  | awaiting => trivial
  | recording => trivial
  | resting => trivial
  | complete => trivial
  | aborted => trivial

/-- A drain that was decided on takes a load of a right size. -/
theorem sized_of_taken (queue : Queue) (tells : log.Tells tuning queue.depth .taking)
    (taken : queue.taken tuning.maxBatch ≠ []) :
    Sized tuning (queue.taken tuning.maxBatch).length log.seen (queue.drain tuning.maxBatch).depth := by
  have length : (queue.taken tuning.maxBatch).length = min tuning.maxBatch queue.depth := by
    rw [Queue.taken_eq_take, List.length_take, Queue.depth, Fifo.size_eq_length]
  obtain ⟨waiting, enough⟩ := tells
  constructor
  · exact List.length_pos_iff.2 taken
  · rw [length]
    exact Nat.min_le_left _ _
  · intro opened
    have low := enough opened
    rw [length]
    omega
  · intro short
    rw [length] at short
    rw [Queue.depth_drain]
    omega

theorem Kept.send {sender : Sender} {shared : Shared} (kept : Kept tuning log state)
    (moves : state.sender.Moves tuning state.shared sender shared) :
    Kept tuning (log.note tuning state.sender state.shared)
      { state with sender := sender, shared := shared } := by
  obtain ⟨place, dispatched⟩ := kept
  cases moves with
  | turned before =>
      simp only [Log.note, before]
      exact ⟨rfl, dispatched⟩
  | @decided exhausted phase before decision =>
      simp only [before] at place
      simp only [Log.note, before]
      refine ⟨?_, dispatched⟩
      dsimp only
      rw [(Sender.frame_enter _ _ _).1]
      have taking : phase.sendsBatch = true →
          log.Tells tuning state.shared.queue.depth .taking := by
        intro sends
        rw [← decision, Phase.sendsBatch_decide_iff] at sends
        refine ⟨sends.1, fun opened => sends.2.resolve_left ?_⟩
        rw [← place, opened]
        exact Bool.false_ne_true
      cases phase with
      | dispatching => exact taking rfl
      | draining => exact taking rfl
      | idle => trivial
      | accumulating => trivial
      | complete => trivial
  | drained before =>
      rw [before] at place
      simp only [Log.note, before]
      refine ⟨?_, dispatched⟩
      dsimp only
      split
      · trivial
      · rename_i taken
        exact sized_of_taken _ place taken
  | counted before =>
      rw [before] at place
      simp only [Log.note, before]
      exact ⟨place, dispatched⟩
  | refused before made =>
      simp only [Log.note, before, made]
      exact ⟨trivial, dispatched⟩
  | @offered events batch before made =>
      rw [before] at place
      simp only [Log.note, before, made]
      refine ⟨trivial, ?_⟩
      intro dispatch inside
      rcases List.mem_cons.1 inside with rfl | earlier
      · rw [Batch.size, Batch.events_of_make made]
        exact place
      · exact dispatched dispatch earlier
  | recorded before =>
      simp only [Log.note, before]
      exact ⟨trivial, dispatched⟩
  | rested before =>
      simp only [Log.note, before]
      exact ⟨trivial, dispatched⟩

theorem Logged.kept (logged : Logged settings.tuning (State.start settings files) log state) :
    Kept settings.tuning log state := by
  induction logged with
  | start => exact ⟨trivial, nofun⟩
  | read _ moved ih => exact ⟨ih.place.of_grown (Intake.moves_of_step moved).depth_le, ih.dispatched⟩
  | send _ moved ih => exact ih.send (Sender.moves_of_step moved)
  | hear outcome _ awaited ih =>
      simp only [Log.note, awaited]
      exact ⟨trivial, ih.dispatched⟩

/-- Whatever the settings, the input, the sink and the order of the steps, every batch handed to the sink is for
the table of the settings and holds between one event and the most that one batch may hold. As long as the
sender had not seen the end mark in the turn of a batch, the batch is full or holds as many events as are worth
a request; and a batch that is not full has left the queue empty. -/
theorem Reachable.batch_sizes (reached : Reachable settings files state) :
    (∃ log, Logged settings.tuning (State.start settings files) log state) ∧
      ∀ log, Logged settings.tuning (State.start settings files) log state →
        log.batches = state.sender.batches ∧
          ∀ dispatch ∈ log.dispatches, dispatch.batch.table.text = settings.table ∧
            (0 < dispatch.batch.size ∧ dispatch.batch.size ≤ settings.maxBatch) ∧
            (dispatch.seen = false →
              min settings.maxBatch (max settings.lowThreshold 1) ≤ dispatch.batch.size) ∧
            (dispatch.batch.size < settings.maxBatch → dispatch.left = 0) := by
  refine ⟨exists_logged reached, ?_⟩
  intro log logged
  refine ⟨logged.batches_eq.symm, ?_⟩
  intro dispatch inside
  have sized := logged.kept.dispatched dispatch inside
  exact ⟨Batch.table_of_make (logged.made dispatch inside), ⟨sized.positive, sized.small⟩, sized.worth,
    sized.whole⟩

def Settings.roomy : Settings :=
  { Settings.narrow with maxBatch := 3, lowThreshold := 2 }

def roomyRun (fuel : Nat) : Log × State :=
  Log.start.proceed Settings.roomy.tuning (fun _ => .error (.rejected "full")) fuel
    (State.start .roomy troubledFiles)

/-- Five events in batches that hold up to three: two and two that were worth a request, and the last one. -/
theorem Reachable.batch_sizes_roomyRun :
    Settings.roomy.Accepted ∧ (roomyRun 100).2.sender.place.isComplete = true ∧
      (roomyRun 100).1.dispatches.map (fun dispatch => (dispatch.batch.size, dispatch.seen, dispatch.left)) =
        [(1, true, 0), (2, false, 0), (2, false, 0)] ∧
      (roomyRun 100).1.batches = (roomyRun 100).2.sender.batches ∧
      ∀ dispatch ∈ (roomyRun 100).1.dispatches, dispatch.batch.table.text = "highstreet" ∧
        (0 < dispatch.batch.size ∧ dispatch.batch.size ≤ 3) ∧
        (dispatch.seen = false → 2 ≤ dispatch.batch.size) ∧
        (dispatch.batch.size < 3 → dispatch.left = 0) := by
  have logged : Logged Settings.roomy.tuning (State.start .roomy troubledFiles) (roomyRun 100).1
      (roomyRun 100).2 := Logged.start.proceed _ 100
  have reached : Reachable .roomy troubledFiles (roomyRun 100).2 := logged.steps
  refine ⟨?_, ?_, ?_, (Reachable.batch_sizes reached).2 _ logged⟩
  · decide +kernel
  · decide +kernel
  · decide +kernel

end EventFeed.Flow
