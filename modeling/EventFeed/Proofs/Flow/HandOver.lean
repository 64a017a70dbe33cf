import EventFeed.Proofs.Flow.Course

/-!
# Every event once, in order

Whatever the sink makes of the batches, and whenever the reader is paused: the events that were handed to
the sink, those that the sender carries and those that wait in the queue are, one behind the other, the
events of the lines that were read.
-/

namespace EventFeed.Flow

variable {settings : Settings} {files : List SourceFile} {lines : List SourceLine} {state : State}

/-! ## Where events are -/

def Sender.handedEvents (sender : Sender) : List Event :=
  sender.batches.flatMap Batch.events

/-- The events that were drained and not handed over yet. -/
def Sender.carried (sender : Sender) : List Event :=
  match sender.place with
  | .counting events => events
  | .offering events => events
  | _ => []

/-- Everything that ever came into the queue. -/
def State.passedOn (state : State) : List Event :=
  state.sender.handedEvents ++ state.sender.carried ++ state.shared.queue.events.toList

/-- The lines that were read, without one whose turn at the queue is still to come. -/
def Intake.Held.settled : Intake.Held → List SourceLine → List SourceLine
  | .nothing, lines => lines
  | .line _, lines => lines.dropLast
  | .event _, lines => lines.dropLast

/-- What is held is what became of the line that was read last. -/
inductive Intake.Held.Follows : List SourceLine → Intake.Held → Prop where
  | nothing {lines : List SourceLine} : Follows lines .nothing
  | line {earlier : List SourceLine} (last : SourceLine) : Follows (earlier ++ [last]) (.line last)
  | event {earlier : List SourceLine} {last : SourceLine} {event : Event} (spelled : last.event? = some event) :
      Follows (earlier ++ [last]) (.event event)

/-- The event that is still to be put into the queue, if there is one. -/
def Intake.Held.events : Intake.Held → List Event
  | .nothing => []
  | .line held => held.event?.toList
  | .event parsed => [parsed]

theorem Intake.Held.Follows.eventsOf_eq {held : Intake.Held} (follows : held.Follows lines) :
    eventsOf lines = eventsOf (held.settled lines) ++ held.events := by
  cases follows with
  | nothing => simp [settled, events]
  | line last => simp [settled, events, eventsOf_append, eventsOf_singleton]
  | event spelled => simp [settled, events, eventsOf_append, eventsOf_singleton, spelled]

/-! ## What the reading side does -/

theorem Intake.Moves.follows {intake next : Intake} {shared after : Shared} {fetched : Option SourceLine}
    (moves : intake.Moves shared next after fetched) (follows : intake.held.Follows lines) :
    next.held.Follows (lines ++ fetched.toList) := by
  cases moves with
  | parsed held verdict =>
      rw [held] at follows
      cases follows with
      | line last => simpa using .event (by simp [SourceLine.event?, verdict])
  | blank => exact .nothing
  | malformed => exact .nothing
  | pushed => exact .nothing
  | read held moved =>
      cases fetched with
      | none => exact .nothing
      | some line => exact .line line

/-- A step of the reading side adds to what came into the queue what it takes off its hands. -/
theorem Intake.Moves.toList_append_events {intake next : Intake} {shared after : Shared}
    {fetched : Option SourceLine} (moves : intake.Moves shared next after fetched) :
    after.queue.events.toList ++ next.held.events =
      shared.queue.events.toList ++ intake.held.events ++ eventsOf fetched.toList := by
  cases moves with
  | parsed held verdict =>
      simp [held, Held.events, SourceLine.event?, verdict, eventsOf, Shared.recordParsed]
  | blank held verdict => simp [held, Held.events, SourceLine.event?, verdict, eventsOf]
  | malformed held verdict =>
      simp [held, Held.events, SourceLine.event?, verdict, eventsOf, Shared.tell, Shared.count,
        Shared.recordMalformed]
  | pushed held => simp [held, Held.events, eventsOf, Shared.queue_push, Queue.toList_push]
  | read held moved =>
      rw [moved.frame.1, held]
      cases fetched with
      | none => simp [Held.ofFetched, Held.events, eventsOf]
      | some line => simp [Held.ofFetched, Held.events, eventsOf_singleton]

/-! ## What the sending side does -/

/-- What the sender carries fits into one batch, and it never had to give up. -/
def Sender.Fit (most : Nat) (sender : Sender) : Prop :=
  match sender.place with
  | .counting events => events ≠ [] ∧ events.length ≤ most
  | .offering events => events ≠ [] ∧ events.length ≤ most
  | .aborted _ => False
  | _ => True

theorem Sender.Moves.fit {tuning : Sender.Tuning} {name : TableName} {sender next : Sender}
    {shared after : Shared} (named : TableName.check tuning.table = .ok name)
    (small : tuning.maxBatch ≤ maxBatchSize) (moves : sender.Moves tuning shared next after)
    (fit : sender.Fit tuning.maxBatch) : next.Fit tuning.maxBatch := by
  cases moves with
  | turned => trivial
  | @decided _ phase before decision => cases phase <;> trivial
  | drained before =>
      by_cases none : shared.queue.taken tuning.maxBatch = []
      · simp [Fit, none]
      · have bounded : (shared.queue.taken tuning.maxBatch).length ≤ tuning.maxBatch := by
          rw [Queue.taken_eq_take]
          exact List.length_take_le _ _
        simp [Fit, none, bounded]
  | counted before =>
      rw [Fit, before] at fit
      exact fit
  | refused before made =>
      rw [Fit, before] at fit
      rw [Batch.make_of_check named fit.1 (Nat.le_trans fit.2 small)] at made
      cases made
  | offered => trivial
  | recorded => trivial
  | rested => trivial

theorem Sender.carried_of_placeOf {sender : Sender} (phase : Phase)
    (led : sender.place = Sender.placeOf phase) : sender.carried = [] := by
  rw [carried, led]
  cases phase <;> rfl

theorem Sender.carried_of_drained (sender : Sender) (events : List Event) :
    Sender.carried { sender with place := if events = [] then .ready else .counting events } = events := by
  by_cases none : events = [] <;> simp [carried, none]

/-- What the sender does moves events along, and none out of their order. -/
theorem Sender.Moves.passedOn {tuning : Sender.Tuning} {sender next : Sender} {shared after : Shared}
    (moves : sender.Moves tuning shared next after) (fit : next.Fit tuning.maxBatch) :
    next.handedEvents ++ next.carried ++ after.queue.events.toList =
      sender.handedEvents ++ sender.carried ++ shared.queue.events.toList := by
  cases moves with
  | turned before => simp [handedEvents, batches, carried, before]
  | @decided _ phase before decision =>
      rw [carried_of_placeOf phase rfl, (frame_enter _ _ _).1]
      simp [handedEvents, batches, carried, before, handed_enter]
  | drained before =>
      have whole : shared.queue.taken tuning.maxBatch ++ (shared.queue.drain tuning.maxBatch).events.toList =
          shared.queue.events.toList := by
        rw [Queue.taken_eq_take, Queue.toList_drain, List.take_append_drop]
      rw [carried_of_drained, Shared.queue_drain, List.append_assoc, whole]
      simp [handedEvents, batches, carried, before]
  | counted before => simp [handedEvents, batches, carried, before, Shared.recordConsumed]
  | refused before made => exact fit.elim
  | offered before made =>
      simp [handedEvents, batches, carried, before, Batch.events_of_make made]
  | recorded before =>
      simp [handedEvents, batches, carried, before, (frame_record _ _ _).1]
  | rested before => simp [handedEvents, batches, carried, before]

/-- What the sink says moves no event. -/
theorem State.passedOn_hear {batch : Batch} (outcome : Outcome)
    (awaited : state.sender.place = .awaiting batch) :
    State.passedOn { state with sender := state.sender.hear batch outcome } = state.passedOn := by
  have unloaded : state.sender.carried = [] := by rw [Sender.carried, awaited]
  rw [State.passedOn, State.passedOn, unloaded]
  rfl

/-! ## The whole run -/

theorem Course.follows (course : Course settings files lines state) : state.intake.held.Follows lines := by
  induction course with
  | start => exact .nothing
  | read _ moved ih => exact (Intake.moves_of_step moved).follows ih
  | send _ _ ih => exact ih
  | hear _ _ _ ih => exact ih

/-- With accepted settings the sender can always make a batch of what it carries. -/
theorem Course.fit (accepted : settings.Accepted) (course : Course settings files lines state) :
    state.sender.Fit settings.maxBatch := by
  obtain ⟨⟨name, named⟩, ⟨_, small⟩, _⟩ := settings.accepted_iff.1 accepted
  induction course with
  | start => trivial
  | read _ _ ih => exact ih
  | send _ moved ih => exact (Sender.moves_of_step moved).fit named small ih
  | hear _ _ _ _ => trivial

theorem Course.passedOn_send {sender : Sender} {shared : Shared} (accepted : settings.Accepted)
    (course : Course settings files lines state)
    (moved : state.sender.step settings.tuning state.shared = some (sender, shared)) :
    State.passedOn { state with sender := sender, shared := shared } = state.passedOn :=
  (Sender.moves_of_step moved).passedOn ((Course.send course moved).fit accepted)

/-- What came into the queue, and what is about to, are the events of the lines that were read. -/
theorem Course.passedOn_append_held (accepted : settings.Accepted)
    (course : Course settings files lines state) :
    state.passedOn ++ state.intake.held.events = eventsOf lines := by
  induction course with
  | start => rfl
  | @read lines state intake shared _ moved ih =>
      have grown := (Intake.moves_of_step moved).toList_append_events
      simp only [State.passedOn, List.append_assoc] at ih ⊢
      rw [grown, eventsOf_append, ← ih]
      simp only [List.append_assoc]
  | send earlier moved ih => rw [earlier.passedOn_send accepted moved, ih]
  | hear outcome _ awaited ih => rw [State.passedOn_hear outcome awaited, ih]

/-- Every event is handed over once and in order. Whatever the order of the steps and whatever becomes of
the batches, the events of the batches handed over, the events carried and the events waiting are the
events of the lines read so far, and these are the first lines of the files. -/
theorem Course.events_in_order (accepted : settings.Accepted) (course : Course settings files lines state) :
    state.sender.batches.flatMap Batch.events ++ state.sender.carried ++ state.shared.queue.events.toList =
        eventsOf (state.intake.held.settled lines) ∧
      lines ++ state.intake.reader.toCome = linesOfFiles files := by
  refine ⟨?_, course.lines_append_toCome⟩
  have whole := course.passedOn_append_held accepted
  rw [course.follows.eventsOf_eq] at whole
  exact List.append_cancel_right whole

/-- One event was handed over, one is carried, one waits and one is about to. -/
theorem Course.events_in_order_troubledRun :
    Settings.narrow.Accepted ∧ ∃ lines, Course .narrow troubledFiles lines (troubledRun 36) ∧
      (troubledRun 36).sender.batches.length = 1 ∧ (troubledRun 36).sender.carried.length = 1 ∧
      (troubledRun 36).shared.queue.depth = 1 ∧ (troubledRun 36).intake.held.events.length = 1 ∧
      (troubledRun 36).sender.batches.flatMap Batch.events ++ (troubledRun 36).sender.carried ++
          (troubledRun 36).shared.queue.events.toList =
        eventsOf ((troubledRun 36).intake.held.settled lines) := by
  obtain ⟨lines, course⟩ := exists_course_troubledRun 36
  refine ⟨Settings.narrow_accepted, lines, course, ?_, ?_, ?_, ?_, ?_⟩
  · decide +kernel
  · decide +kernel
  · decide +kernel
  · decide +kernel
  · exact (Course.events_in_order Settings.narrow_accepted course).1

end EventFeed.Flow
