import EventFeed.Proofs.Flow.Course
import EventFeed.Proofs.Flow.Hysteresis

/-!
# Backpressure

A paused reader stands before its next look at the flag, with nothing in its hands. So the event that
fills the queue is the last one until the queue lets the reader go on, in whatever order both sides take
their steps, and the depth never goes beyond the high mark.
-/

namespace EventFeed.Flow

variable {settings : Settings} {files : List SourceFile} {state next : State}

/-! ## A halted reader -/

/-- The reader is about to look at the flag, and nothing that it read is on its way. -/
def Intake.Halted (intake : Intake) : Prop :=
  intake.held = .nothing ∧ ∃ file, intake.reader.place = .looking file

theorem Intake.Halted.step_eq_none {intake : Intake} {shared : Shared} (halted : intake.Halted)
    (paused : shared.paused = true) : intake.step shared = none := by
  obtain ⟨nothing, file, place⟩ := halted
  simp [Intake.step, nothing, Reader.step, place, paused]

/-- Whatever is on its way to the queue was read by a reader that looks at the flag next. -/
def Intake.Aligned (intake : Intake) : Prop :=
  intake.held ≠ .nothing → ∃ file, intake.reader.place = .looking file

theorem Intake.Moves.aligned {intake after : Intake} {shared later : Shared} {fetched : Option SourceLine}
    (moves : intake.Moves shared after later fetched) (aligned : intake.Aligned) : after.Aligned := by
  cases moves with
  | parsed held => exact fun _ => aligned (by simp [held])
  | blank => exact fun moved => absurd rfl moved
  | malformed => exact fun moved => absurd rfl moved
  | pushed => exact fun moved => absurd rfl moved
  | read held moved =>
      cases moved with
      | handedOver => exact fun _ => ⟨_, rfl⟩
      | ended => exact fun moved => absurd rfl moved
      | passedOver => exact fun moved => absurd rfl moved
      | opened => exact fun moved => absurd rfl moved
      | looked => exact fun moved => absurd rfl moved
      | finished => exact fun moved => absurd rfl moved
      | failed => exact fun moved => absurd rfl moved

/-! ## The invariant of a run -/

/-- What backpressure keeps true in every state. -/
structure Regulated (marks : Watermarks) (state : State) : Prop where
  marks_eq : state.shared.queue.marks = marks
  regular : state.shared.queue.Regular
  inStep : state.shared.InStep
  aligned : state.intake.Aligned
  halted : state.shared.paused = true → state.intake.Halted
  capped : state.shared.queue.maxDepth ≤ marks.high

namespace Regulated

variable {marks : Watermarks}

theorem start (settings : Settings) (files : List SourceFile)
    (apart : settings.marks.resume < settings.marks.high) :
    Regulated settings.marks (State.start settings files) where
  marks_eq := rfl
  regular := Queue.regular_empty apart
  inStep := rfl
  aligned := fun held => absurd rfl held
  halted := nofun
  capped := Nat.zero_le _

/-- The reader moves only while it is not paused, and then there is room for one event. -/
theorem running (regulated : Regulated marks state) {intake : Intake} {shared : Shared}
    (moved : state.intake.step state.shared = some (intake, shared)) :
    state.shared.paused = false ∧ state.shared.queue.depth < marks.high := by
  cases paused : state.shared.paused with
  | true =>
      rw [(regulated.halted paused).step_eq_none paused] at moved
      cases moved
  | false =>
      have unrequested : state.shared.queue.pauseRequested = false := regulated.inStep ▸ paused
      exact ⟨rfl, regulated.marks_eq ▸ regulated.regular.room unrequested⟩

/-- The event that pauses the reader is the one that fills the queue. -/
theorem full_of_push (regulated : Regulated marks state) (running : state.shared.paused = false)
    {event : Event} (paused : (state.shared.push event).paused = true) :
    (state.shared.push event).queue.depth = marks.high := by
  have before : state.shared.queue.pauseRequested = false := regulated.inStep.symm.trans running
  have room := regulated.regular.room before
  rw [regulated.inStep.push event, Shared.queue_push, Queue.pauseRequested_push, before, Bool.false_or,
    decide_eq_true_iff] at paused
  rw [Shared.queue_push, Queue.depth_push, ← regulated.marks_eq]
  exact Nat.le_antisymm room paused

/-- Steps that leave queue and flag alone keep the invariant where the reader stays as it should. -/
theorem of_frame (regulated : Regulated marks state) (sameQueue : next.shared.queue = state.shared.queue)
    (samePause : next.shared.paused = state.shared.paused) (aligned : next.intake.Aligned)
    (halted : next.shared.paused = true → next.intake.Halted) : Regulated marks next where
  marks_eq := by rw [sameQueue, regulated.marks_eq]
  regular := by
    rw [sameQueue]
    exact regulated.regular
  inStep := by
    rw [Shared.InStep, sameQueue, samePause]
    exact regulated.inStep
  aligned := aligned
  halted := halted
  capped := by
    rw [sameQueue]
    exact regulated.capped

theorem read (apart : marks.resume < marks.high) (regulated : Regulated marks state) {intake : Intake}
    {shared : Shared} (moved : state.intake.step state.shared = some (intake, shared)) :
    Regulated marks { state with intake := intake, shared := shared } := by
  obtain ⟨running, room⟩ := regulated.running moved
  have moves := Intake.moves_of_step moved
  have aligned := moves.aligned regulated.aligned
  rcases moves.frame_or_push with ⟨sameQueue, samePause⟩ | ⟨event, held, rfl, rfl⟩
  · -- Only a push can pause the reader, and this is none.
    refine regulated.of_frame sameQueue samePause aligned fun paused => ?_
    rw [samePause, running] at paused
    cases paused
  · obtain ⟨marks_eq, regular, inStep, before, _, capped⟩ := regulated
    refine ⟨?_, ?_, inStep.push event, aligned, fun _ => ⟨rfl, before (by simp [held])⟩, ?_⟩
    · rw [Shared.queue_push, Queue.marks_push, marks_eq]
    · rw [Shared.queue_push]
      exact regular.push (by rw [marks_eq]; exact apart) event
    · rw [Shared.queue_push, Queue.maxDepth_push]
      exact Nat.max_le.2 ⟨capped, room⟩

theorem drain (apart : marks.resume < marks.high) (regulated : Regulated marks state) (sender : Sender)
    (most : Nat) :
    Regulated marks { state with sender := sender, shared := (state.shared.drain most).2 } := by
  obtain ⟨marks_eq, regular, inStep, aligned, halted, capped⟩ := regulated
  refine ⟨?_, ?_, inStep.drain most, aligned, ?_, ?_⟩
  · rw [Shared.queue_drain, Queue.marks_drain, marks_eq]
  · rw [Shared.queue_drain]
    exact regular.drain (by rw [marks_eq]; exact apart) most
  · intro paused
    exact halted (inStep.paused_of_drain paused)
  · rw [Shared.queue_drain, Queue.maxDepth_drain]
    exact capped

theorem send (apart : marks.resume < marks.high) (regulated : Regulated marks state)
    {tuning : Sender.Tuning} {sender : Sender} {shared : Shared}
    (moves : state.sender.Moves tuning state.shared sender shared) :
    Regulated marks { state with sender := sender, shared := shared } := by
  rcases moves.frame_or_drain with ⟨sameQueue, samePause⟩ | ⟨_, rfl⟩
  · exact regulated.of_frame sameQueue samePause regulated.aligned fun paused =>
      regulated.halted (samePause.symm.trans paused)
  · exact regulated.drain apart sender tuning.maxBatch

theorem step (apart : marks.resume < marks.high) (regulated : Regulated marks state)
    {tuning : Sender.Tuning} (step : Step tuning state next) : Regulated marks next := by
  cases step with
  | read moved => exact regulated.read apart moved
  | send moved => exact regulated.send apart (Sender.moves_of_step moved)
  | hear => exact regulated.of_frame rfl rfl regulated.aligned regulated.halted

end Regulated

/-- Backpressure works in every state of a run with accepted settings. -/
theorem Reachable.regulated (accepted : settings.Accepted) (reached : Reachable settings files state) :
    Regulated settings.marks state := by
  obtain ⟨_, _, apart, _⟩ := settings.accepted_iff.1 accepted
  induction reached with
  | refl => exact .start settings files apart
  | tail _ step ih => exact ih.step apart step

/-- The queue is never deeper than the high mark, and it was as deep as that exactly if a pause was asked
for. -/
theorem Reachable.depth_le_high (accepted : settings.Accepted) (reached : Reachable settings files state) :
    state.shared.queue.depth ≤ settings.marks.high ∧
      (state.shared.queue.stats.maxDepth = settings.marks.high ↔ 0 < state.shared.queue.stats.pauses) := by
  obtain ⟨marks_eq, regular, _, _, _, capped⟩ := reached.regulated accepted
  have peak := regular.peak
  rw [marks_eq] at peak
  refine ⟨Nat.le_trans regular.depth_le capped, ?_⟩
  constructor
  · intro full
    exact peak.1 (Nat.le_of_eq full.symm)
  · intro asked
    exact Nat.le_antisymm capped (peak.2 asked)

/-- The queue is full, and the reader is paused for the second time. -/
theorem Reachable.depth_le_high_troubledRun :
    Settings.narrow.Accepted ∧ Reachable .narrow troubledFiles (troubledRun 37) ∧
      (troubledRun 37).shared.queue.depth = 2 ∧ (troubledRun 37).shared.queue.stats.pauses = 2 ∧
      (troubledRun 37).shared.queue.depth ≤ Settings.narrow.marks.high ∧
      (troubledRun 37).shared.queue.stats.maxDepth = Settings.narrow.marks.high := by
  obtain ⟨lines, course⟩ := exists_course_troubledRun 37
  obtain ⟨bounded, peak⟩ := Reachable.depth_le_high Settings.narrow_accepted course.reachable
  have paused : (troubledRun 37).shared.queue.stats.pauses = 2 := by decide +kernel
  refine ⟨Settings.narrow_accepted, course.reachable, ?_, paused, bounded, peak.2 ?_⟩
  · decide +kernel
  · rw [paused]
    exact Nat.zero_lt_two

end EventFeed.Flow
