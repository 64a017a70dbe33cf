import EventFeed.Proofs.Flow.Completion

/-!
# Turns

What either side can bring about while the other one stands still. A sender that finds enough events sends
a batch and comes back to the beginning of its turn, whatever the sink says. A reader that is not paused
goes on until the queue pauses it, or until it has nothing more to read.
-/

namespace EventFeed.Flow

variable {settings : Settings} {files : List SourceFile} {state next : State}

/-! ## A turn of the sender -/

/-- Nothing but the sender itself has changed, and what was told and counted. -/
structure Undisturbed (state later : State) : Prop where
  intake : later.intake = state.intake
  queue : later.shared.queue = state.shared.queue
  paused : later.shared.paused = state.shared.paused
  exhausted : later.shared.exhausted = state.shared.exhausted

theorem Step.of_moves {tuning : Sender.Tuning} {sender : Sender} {shared : Shared}
    (moves : state.sender.Moves tuning state.shared sender shared) :
    Step tuning state { state with sender := sender, shared := shared } :=
  .send (Sender.step_of_moves moves)

theorem Sender.placeOf_of_sendsBatch {phase : Phase} (sends : phase.sendsBatch = true) :
    Sender.placeOf phase = .taking := by
  cases phase with
  | dispatching => rfl
  | draining => rfl
  | idle => cases sends
  | accumulating => cases sends
  | complete => cases sends

/-- A sender that finds enough events goes to take them. -/
theorem exists_taking {tuning : Sender.Tuning} (ready : state.sender.place = .ready)
    (sends : (Phase.decide state.shared.queue.depth state.shared.exhausted tuning.lowThreshold).sendsBatch =
      true) :
    ∃ later, Steps tuning state later ∧ later.sender.place = .taking ∧ Undisturbed state later := by
  let seen : State := { state with sender := { state.sender with place := .looking state.shared.exhausted } }
  have looked : Step tuning state seen := .of_moves (.turned ready)
  have decided : Step tuning seen _ := .of_moves (.decided rfl rfl)
  obtain ⟨sameQueue, samePause, sameEnd⟩ := Sender.frame_enter seen.sender seen.shared
    (Phase.decide state.shared.queue.depth state.shared.exhausted tuning.lowThreshold)
  exact ⟨_, .tail (.single looked) decided, Sender.placeOf_of_sendsBatch sends, rfl, sameQueue, samePause,
    sameEnd⟩

/-- A sender that has drained events which fit into a batch hands them over and comes back, whatever the
sink says. -/
theorem exists_ready {tuning : Sender.Tuning} {events : List Event} {batch : Batch} (outcome : Outcome)
    (drained : state.sender.place = .counting events)
    (made : Batch.make tuning.table events = .ok batch) :
    ∃ later, Steps tuning state later ∧ later.sender.place = .ready ∧ Undisturbed state later := by
  let counted : State :=
    { state with
      sender := { state.sender with place := .offering events }
      shared := state.shared.recordConsumed events.length }
  let offered : State :=
    { counted with
      sender := { counted.sender with place := .awaiting batch, handed := batch :: counted.sender.handed } }
  let heard : State := { offered with sender := offered.sender.hear batch outcome }
  have counts : Step tuning state counted := .of_moves (.counted drained)
  have offers : Step tuning counted offered := .of_moves (.offered rfl made)
  have hears : Step tuning offered heard := .hear outcome rfl
  have records : Step tuning heard _ := .of_moves (.recorded rfl)
  obtain ⟨sameQueue, samePause, sameEnd⟩ := Sender.frame_record heard.shared batch.size outcome
  exact ⟨_, .tail (.tail (.tail (.single counts) offers) hears) records, rfl, rfl, sameQueue, samePause,
    sameEnd⟩

/-- A whole turn: the sender takes one batch out of the queue and is ready for the next turn. -/
theorem exists_turn {tuning : Sender.Tuning} {name : TableName} (outcome : Outcome)
    (named : TableName.check tuning.table = .ok name) (positive : 0 < tuning.maxBatch)
    (small : tuning.maxBatch ≤ maxBatchSize) (ready : state.sender.place = .ready)
    (sends : (Phase.decide state.shared.queue.depth state.shared.exhausted tuning.lowThreshold).sendsBatch =
      true) :
    ∃ later, Steps tuning state later ∧ later.sender.place = .ready ∧ later.intake = state.intake ∧
      later.shared.queue = state.shared.queue.drain tuning.maxBatch ∧
      later.shared.exhausted = state.shared.exhausted := by
  obtain ⟨taking, toTaking, place, before⟩ := exists_taking ready sends
  let events := taking.shared.queue.taken tuning.maxBatch
  have taken : events = state.shared.queue.events.toList.take tuning.maxBatch := by
    rw [← before.queue]
    exact Queue.taken_eq_take _ _
  have nonempty : events ≠ [] := by
    have waiting := ((Phase.sendsBatch_decide_iff _ _ _).1 sends).1
    rw [← before.queue] at waiting
    exact Queue.taken_ne_nil waiting positive
  have fits : events.length ≤ maxBatchSize := by
    rw [taken]
    exact Nat.le_trans (List.length_take_le _ _) small
  let drained : State :=
    { taking with
      sender := { taking.sender with place := if events = [] then .ready else .counting events }
      shared := (taking.shared.drain tuning.maxBatch).2 }
  have drains : Step tuning taking drained := .of_moves (.drained place)
  have carries : drained.sender.place = .counting events := if_neg nonempty
  obtain ⟨later, toReady, again, after⟩ :=
    exists_ready outcome carries (Batch.make_of_check named nonempty fits)
  refine ⟨later, .trans (.tail toTaking drains) toReady, again, ?_, ?_, ?_⟩
  · rw [after.intake]
    exact before.intake
  · rw [after.queue, ← before.queue]
    exact Shared.queue_drain _ _
  · rw [after.exhausted, ← before.exhausted]
    exact Shared.exhausted_drain _ _

/-! ## A reader on its own -/

theorem Reader.exists_moves {reader : Reader} {shared : Shared} (running : shared.paused = false)
    (unfinished : reader.place ≠ .finished) :
    ∃ next after handed, reader.step shared = some (next, after, handed) := by
  cases place : reader.place with
  | betweenFiles =>
      refine ⟨(reader.nextFile shared).1, (reader.nextFile shared).2, none, ?_⟩
      simp only [step, place]
  | looking file =>
      refine ⟨{ reader with place := .reading file }, shared, none, ?_⟩
      simp [step, place, running]
  | reading file =>
      refine ⟨(reader.readOn shared file).1, (reader.readOn shared file).2.1,
        (reader.readOn shared file).2.2, ?_⟩
      simp only [step, place]
  | finished => exact absurd place unfinished

/-- A reader that is neither paused nor at its end can go on. -/
theorem Intake.exists_step {intake : Intake} {shared : Shared} (running : shared.paused = false)
    (unfinished : intake.reader.place ≠ .finished) :
    ∃ next after, intake.step shared = some (next, after) := by
  cases held : intake.held with
  | line line =>
      refine ⟨(intake.classify shared line).1, (intake.classify shared line).2, ?_⟩
      simp only [step, held]
  | event event =>
      refine ⟨{ intake with held := .nothing }, shared.push event, ?_⟩
      simp only [step, held]
  | nothing =>
      obtain ⟨reader, after, handed, moved⟩ := Reader.exists_moves running unfinished
      cases handed with
      | none =>
          refine ⟨⟨reader, .nothing⟩, after, ?_⟩
          simp only [step, held, moved]
      | some line =>
          refine ⟨⟨reader, .line line⟩, after, ?_⟩
          simp only [step, held, moved]

theorem Reader.Moves.work_lt {reader after : Reader} {shared later : Shared} {handed : Option SourceLine}
    (moves : reader.Moves shared after later handed) : after.work < reader.work := by
  cases moves with
  | ended between last => simp [work, between]
  | passedOver between next content =>
      simp only [work, giveUp, between, next, content, List.map_cons, List.foldr_cons]
      omega
  | opened between next content =>
      simp only [work, between, next, content, List.map_cons, List.foldr_cons]
      omega
  | looked before => simp [work, before]
  | handedOver before found =>
      have shorter := (OpenFile.read_line found).1
      simp only [work, before, OpenFile.after]
      omega
  | finished before =>
      simp only [work, finish, close, before]
      omega
  | failed before =>
      simp only [work, giveUp, close, before]
      omega

theorem Intake.Moves.work_lt {intake after : Intake} {shared later : Shared} {fetched : Option SourceLine}
    (moves : intake.Moves shared after later fetched) : after.work < intake.work := by
  cases moves with
  | parsed held => simp [work, held]
  | blank held => simp [work, held]
  | malformed held => simp [work, held]
  | pushed held => simp [work, held]
  | read held moved =>
      have less := moved.work_lt
      cases fetched with
      | none =>
          simp only [work, held, Held.ofFetched]
          omega
      | some line =>
          simp only [work, held, Held.ofFetched]
          omega

/-! ## Up to the high mark -/

/-- The events that were not drained yet: those that wait, and those that the reading side has before it. -/
def State.ahead (state : State) : List Event :=
  state.shared.queue.events.toList ++ state.intake.held.events ++ eventsOf state.intake.reader.toCome

theorem State.ahead_start (settings : Settings) (files : List SourceFile) :
    (State.start settings files).ahead = eventsOf (linesOfFiles files) :=
  rfl

theorem Intake.Moves.ahead {intake : Intake} {shared : Shared} {fetched : Option SourceLine}
    (moves : state.intake.Moves state.shared intake shared fetched) :
    State.ahead { state with intake := intake, shared := shared } = state.ahead := by
  rw [State.ahead, State.ahead, moves.toList_append_events, moves.toCome, eventsOf_append]
  simp only [List.append_assoc]

/-- As long as there are enough events before it the reader goes on until the queue is full. -/
theorem Reachable.exists_paused (accepted : settings.Accepted) (reached : Reachable settings files state)
    (ready : state.sender.place = .ready) (enough : settings.marks.high ≤ state.ahead.length) :
    ∃ later, Reachable settings files later ∧ later.sender.place = .ready ∧ later.shared.paused = true := by
  induction left : state.intake.work using Nat.strong_induction_on generalizing state with
  | _ left ih =>
      subst left
      cases paused : state.shared.paused with
      | true => exact ⟨state, reached, ready, paused⟩
      | false =>
          have regulated := reached.regulated accepted
          have unfinished : state.intake.reader.place ≠ .finished := by
            intro finished
            have nothing := (regulated.aligned.finished finished).1
            have unrequested : state.shared.queue.pauseRequested = false := regulated.inStep ▸ paused
            have room := regulated.regular.room unrequested
            rw [regulated.marks_eq, Queue.depth, Fifo.size_eq_length] at room
            rw [State.ahead, nothing, Reader.toCome, finished] at enough
            simp only [Intake.Held.events, eventsOf, List.filterMap_nil, List.append_nil] at enough
            omega
          obtain ⟨intake, shared, moved⟩ := Intake.exists_step paused unfinished
          have moves := Intake.moves_of_step moved
          refine ih _ moves.work_lt (reached.steps (.single (.read moved))) ready ?_ rfl
          rw [moves.ahead]
          exact enough

end EventFeed.Flow
