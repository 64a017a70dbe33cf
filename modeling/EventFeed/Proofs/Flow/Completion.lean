import EventFeed.Proofs.Flow.Backpressure
import EventFeed.Proofs.Flow.HandOver

/-!
# Completion

The sender looks at the end mark before it looks at the depth. What it has seen stays true until it acts
on it, although the reader may go on in between: the end mark is never taken back, nothing is pushed once
it is set, and before that the queue only grows until the sender drains it.
-/

namespace EventFeed.Flow

variable {settings : Settings} {files : List SourceFile} {lines : List SourceLine} {state next : State}

/-! ## The end mark -/

theorem Reader.Moves.exhausted_iff {reader after : Reader} {shared later : Shared}
    {handed : Option SourceLine} (moves : reader.Moves shared after later handed)
    (ended : shared.exhausted = true ↔ reader.place = .finished) :
    later.exhausted = true ↔ after.place = .finished := by
  cases moves with
  | ended between last =>
      refine iff_of_true ?_ rfl
      split
      · assumption
      · rfl
  | passedOver between => simpa [giveUp, Shared.tell, Shared.count, between] using ended
  | opened between => simpa [between] using ended
  | looked before => simpa [before] using ended
  | handedOver before => simpa [Shared.recordLine, before] using ended
  | finished before => simpa [finish, countFile, Shared.tell, Shared.count, before] using ended
  | failed before => simpa [giveUp, countFile, Shared.tell, Shared.count, before] using ended

theorem Intake.Moves.exhausted_iff {intake after : Intake} {shared later : Shared}
    {fetched : Option SourceLine} (moves : intake.Moves shared after later fetched)
    (ended : shared.exhausted = true ↔ intake.reader.place = .finished) :
    later.exhausted = true ↔ after.reader.place = .finished := by
  cases moves with
  | parsed => exact ended
  | blank => exact ended
  | malformed => exact ended
  | pushed =>
      rw [Shared.exhausted_push]
      exact ended
  | read held moved => exact moved.exhausted_iff ended

theorem Intake.step_eq_none {intake : Intake} (finished : intake.reader.place = .finished)
    (nothing : intake.held = .nothing) (shared : Shared) : intake.step shared = none := by
  simp [step, nothing, Reader.step, finished]

/-- A reader that has finished has nothing in its hands, and takes no step any more. -/
theorem Intake.Aligned.finished {intake : Intake} (aligned : intake.Aligned)
    (finished : intake.reader.place = .finished) :
    intake.held = .nothing ∧ ∀ shared, intake.step shared = none := by
  have nothing : intake.held = .nothing := by
    by_contra held
    obtain ⟨file, looking⟩ := aligned held
    rw [finished] at looking
    cases looking
  exact ⟨nothing, step_eq_none finished nothing⟩

theorem Intake.Aligned.unfinished {intake next : Intake} {shared after : Shared} (aligned : intake.Aligned)
    (moved : intake.step shared = some (next, after)) : intake.reader.place ≠ .finished := by
  intro finished
  rw [(aligned.finished finished).2] at moved
  cases moved

theorem Intake.Moves.depth_le {intake after : Intake} {shared later : Shared}
    {fetched : Option SourceLine} (moves : intake.Moves shared after later fetched) :
    shared.queue.depth ≤ later.queue.depth := by
  rcases moves.frame_or_push with ⟨same, _⟩ | ⟨event, _, _, pushed⟩
  · rw [same]
  · rw [pushed, Shared.queue_push, Queue.depth_push]
    exact Nat.le_succ _

/-! ## What the sender has seen -/

/-- What a sender has seen, or has decided on, is still so. -/
def Sender.Place.Holds (lowThreshold : Nat) (shared : Shared) : Sender.Place → Prop
  | .looking exhausted => exhausted = true → shared.exhausted = true
  | .taking => shared.exhausted = true ∨ max 1 lowThreshold ≤ shared.queue.depth
  | .complete => shared.exhausted = true ∧ shared.queue.depth = 0
  | _ => True

/-- The end mark tells the truth, and so does what the sender knows. -/
structure Aware (lowThreshold : Nat) (state : State) : Prop where
  exhausted_iff : state.shared.exhausted = true ↔ state.intake.reader.place = .finished
  holds : state.sender.place.Holds lowThreshold state.shared

theorem Aware.unfinished {lowThreshold : Nat} (aware : Aware lowThreshold state)
    (unfinished : state.intake.reader.place ≠ .finished) : state.shared.exhausted = false := by
  rw [← Bool.not_eq_true, aware.exhausted_iff]
  exact unfinished

/-- Before the end mark is set the sender can only have seen what goes on to hold while the queue
grows. -/
theorem Sender.Place.Holds.of_grown {lowThreshold : Nat} {shared later : Shared} {place : Sender.Place}
    (unfinished : shared.exhausted = false) (grown : shared.queue.depth ≤ later.queue.depth)
    (holds : place.Holds lowThreshold shared) : place.Holds lowThreshold later := by
  cases place with
  | looking exhausted => exact fun seen => absurd (unfinished.symm.trans (holds seen)) nofun
  | taking =>
      cases holds with
      | inl ended => exact absurd (unfinished.symm.trans ended) nofun
      | inr enough => exact .inr (Nat.le_trans enough grown)
  | complete => exact absurd (unfinished.symm.trans holds.1) nofun
  | ready => trivial
  | counting => trivial
  | offering => trivial
  | awaiting => trivial
  | recording => trivial
  | resting => trivial
  | aborted => trivial

theorem Sender.Moves.holds {tuning : Sender.Tuning} {sender after : Sender} {shared later : Shared}
    (moves : sender.Moves tuning shared after later)
    (holds : sender.place.Holds tuning.lowThreshold shared) :
    later.exhausted = shared.exhausted ∧ after.place.Holds tuning.lowThreshold later := by
  cases moves with
  | turned => exact ⟨rfl, id⟩
  | @decided exhausted phase before decision =>
      obtain ⟨sameQueue, _, sameEnd⟩ := frame_enter sender shared phase
      refine ⟨sameEnd, ?_⟩
      rw [before] at holds
      have taking : phase.sendsBatch = true →
          Place.taking.Holds tuning.lowThreshold (sender.enter shared phase).2 := by
        intro sends
        rw [← decision, Phase.sendsBatch_decide_iff] at sends
        rcases sends with ⟨waiting, seen | enough⟩
        · exact .inl (sameEnd.trans (holds seen))
        · exact .inr (sameQueue ▸ Nat.max_le.2 ⟨waiting, enough⟩)
      cases phase with
      | complete =>
          obtain ⟨empty, seen⟩ := (Phase.decide_eq_complete_iff _ _ _).1 decision
          exact ⟨sameEnd.trans (holds seen), by rw [sameQueue, empty]⟩
      | dispatching => exact taking rfl
      | draining => exact taking rfl
      | idle => trivial
      | accumulating => trivial
  | drained =>
      refine ⟨Shared.exhausted_drain _ _, ?_⟩
      dsimp only
      split <;> trivial
  | counted => exact ⟨rfl, trivial⟩
  | refused => exact ⟨rfl, trivial⟩
  | offered => exact ⟨rfl, trivial⟩
  | recorded => exact ⟨(frame_record _ _ _).2.2, trivial⟩
  | rested => exact ⟨rfl, trivial⟩

theorem Aware.start (settings : Settings) (files : List SourceFile) (lowThreshold : Nat) :
    Aware lowThreshold (State.start settings files) where
  exhausted_iff := iff_of_false nofun nofun
  holds := trivial

theorem Aware.step {tuning : Sender.Tuning} (aware : Aware tuning.lowThreshold state)
    (aligned : state.intake.Aligned) (step : Step tuning state next) : Aware tuning.lowThreshold next := by
  cases step with
  | read moved =>
      have moves := Intake.moves_of_step moved
      have unfinished := aware.unfinished (aligned.unfinished moved)
      exact ⟨moves.exhausted_iff aware.exhausted_iff, aware.holds.of_grown unfinished moves.depth_le⟩
  | send moved =>
      obtain ⟨sameEnd, holds⟩ := (Sender.moves_of_step moved).holds aware.holds
      refine ⟨?_, holds⟩
      rw [sameEnd]
      exact aware.exhausted_iff
  | hear => exact ⟨aware.exhausted_iff, trivial⟩

theorem Reachable.aware (accepted : settings.Accepted) (reached : Reachable settings files state) :
    Aware settings.lowThreshold state := by
  induction reached with
  | refl => exact .start settings files settings.lowThreshold
  | tail earlier step ih =>
      have aware : Aware settings.tuning.lowThreshold _ := ih
      exact aware.step (Reachable.regulated accepted earlier).aligned step

/-! ## The end of a run -/

/-- The reading side is at its end, and nothing waits in the queue. -/
structure Exhausted (state : State) : Prop where
  finished : state.intake.reader.place = .finished
  nothing : state.intake.held = .nothing
  empty : state.shared.queue.events.toList = []

/-- Once the end mark is set and nothing waits, all lines were read. -/
theorem Course.exhausted_of_mark (accepted : settings.Accepted)
    (course : Course settings files lines state) (mark : state.shared.exhausted = true)
    (empty : state.shared.queue.depth = 0) : Exhausted state ∧ lines = linesOfFiles files := by
  have reached := course.reachable
  have finished := (reached.aware accepted).exhausted_iff.1 mark
  have nothing := ((reached.regulated accepted).aligned.finished finished).1
  rw [Queue.depth, Fifo.size_eq_length, List.length_eq_zero_iff] at empty
  refine ⟨⟨finished, nothing, empty⟩, ?_⟩
  have whole := course.lines_append_toCome
  rw [Reader.toCome, finished, List.append_nil] at whole
  exact whole

/-- At the end everything was read, and nothing is left. -/
theorem Course.exhausted_of_complete (accepted : settings.Accepted)
    (course : Course settings files lines state) (complete : state.sender.place = .complete) :
    Exhausted state ∧ lines = linesOfFiles files := by
  have holds := (course.reachable.aware accepted).holds
  rw [complete] at holds
  exact course.exhausted_of_mark accepted holds.1 holds.2

namespace Exhausted

theorem step_eq_none (exhausted : Exhausted state) (shared : Shared) : state.intake.step shared = none :=
  Intake.step_eq_none exhausted.finished exhausted.nothing shared

theorem step {tuning : Sender.Tuning} (exhausted : Exhausted state) (step : Step tuning state next) :
    Exhausted next := by
  cases step with
  | read moved =>
      rw [exhausted.step_eq_none] at moved
      cases moved
  | send moved =>
      refine ⟨exhausted.finished, exhausted.nothing, ?_⟩
      rcases (Sender.moves_of_step moved).frame_or_drain with ⟨same, _⟩ | ⟨_, drained⟩
      · rw [same, exhausted.empty]
      · rw [drained, Shared.queue_drain, Queue.toList_drain, exhausted.empty, List.drop_nil]
  | hear => exact ⟨exhausted.finished, exhausted.nothing, exhausted.empty⟩

/-- Nothing is read and nothing is pushed any more. -/
theorem steps {tuning : Sender.Tuning} (exhausted : Exhausted state)
    (steps : Steps tuning state next) : Exhausted next := by
  induction steps with
  | refl => exact exhausted
  | tail _ step ih => exact ih.step step

end Exhausted

/-- When the sender finds that it is complete, the reader has handed over its last line, nothing waits, and
nothing will be read or pushed any more. When it is at its end, the batches handed to the sink held the
events of all lines of the files. -/
theorem Course.completion_leaves_nothing (accepted : settings.Accepted)
    (course : Course settings files lines state) :
    (∀ exhausted, state.sender.place = .looking exhausted →
        Phase.decide state.shared.queue.depth exhausted settings.lowThreshold = .complete →
          Exhausted state ∧ lines = linesOfFiles files ∧
            ∀ later, Steps settings.tuning state later →
              Exhausted later ∧ later.intake.step later.shared = none) ∧
      (state.sender.place = .complete →
        lines = linesOfFiles files ∧
          state.sender.batches.flatMap Batch.events = eventsOf (linesOfFiles files)) := by
  have aware := course.reachable.aware accepted
  constructor
  · intro exhausted place decision
    obtain ⟨empty, seen⟩ := (Phase.decide_eq_complete_iff _ _ _).1 decision
    have mark : state.shared.exhausted = true := by
      have holds := aware.holds
      rw [place] at holds
      exact holds seen
    obtain ⟨done, all⟩ := course.exhausted_of_mark accepted mark empty
    refine ⟨done, all, fun later steps => ?_⟩
    have still := done.steps steps
    exact ⟨still, still.step_eq_none _⟩
  · intro place
    obtain ⟨mark, empty⟩ : state.shared.exhausted = true ∧ state.shared.queue.depth = 0 := by
      have holds := aware.holds
      rwa [place] at holds
    obtain ⟨done, all⟩ := course.exhausted_of_mark accepted mark empty
    refine ⟨all, ?_⟩
    have unloaded : state.sender.carried = [] := by rw [Sender.carried, place]
    have whole := course.passedOn_append_held accepted
    rw [State.passedOn, unloaded, done.empty, done.nothing, all] at whole
    simpa [Intake.Held.events, Sender.handedEvents] using whole

/-- What a sender has seen of the end mark and not acted on yet. -/
def Sender.Place.seen? : Sender.Place → Option Bool
  | .looking exhausted => some exhausted
  | _ => none

theorem Sender.Place.seen?_eq_some_iff {place : Sender.Place} {exhausted : Bool} :
    place.seen? = some exhausted ↔ place = .looking exhausted := by
  cases place <;> simp [seen?]

def Sender.Place.isComplete : Sender.Place → Bool
  | .complete => true
  | _ => false

theorem Sender.Place.isComplete_iff {place : Sender.Place} : place.isComplete = true ↔ place = .complete := by
  cases place <;> simp [isComplete]

/-- The last look of the sender, and the end of the run. -/
theorem Course.completion_leaves_nothing_troubledRun :
    Settings.narrow.Accepted ∧
      (∃ lines, Course .narrow troubledFiles lines (troubledRun 70) ∧
        (troubledRun 70).sender.place = .looking true ∧
        Phase.decide (troubledRun 70).shared.queue.depth true Settings.narrow.lowThreshold = .complete ∧
        lines = linesOfFiles troubledFiles) ∧
      (troubledRun 71).sender.place = .complete ∧
        (troubledRun 71).sender.batches.flatMap Batch.events = eventsOf (linesOfFiles troubledFiles) := by
  obtain ⟨before, looking⟩ := exists_course_troubledRun 70
  obtain ⟨after, ended⟩ := exists_course_troubledRun 71
  have place : (troubledRun 70).sender.place = .looking true :=
    Sender.Place.seen?_eq_some_iff.1 (by decide +kernel)
  have decision : Phase.decide (troubledRun 70).shared.queue.depth true Settings.narrow.lowThreshold =
      .complete := by decide +kernel
  have complete : (troubledRun 71).sender.place = .complete :=
    Sender.Place.isComplete_iff.1 (by decide +kernel)
  have last := (Course.completion_leaves_nothing Settings.narrow_accepted looking).1 true place decision
  refine ⟨Settings.narrow_accepted, ⟨before, looking, place, decision, last.2.1⟩, complete, ?_⟩
  exact ((Course.completion_leaves_nothing Settings.narrow_accepted ended).2 complete).2

end EventFeed.Flow
