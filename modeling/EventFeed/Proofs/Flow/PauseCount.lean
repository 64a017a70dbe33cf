import EventFeed.Proofs.Flow.Backpressure
import EventFeed.Proofs.Flow.HandOver
import EventFeed.Proofs.Flow.QueueHistory

/-!
# How often a reader is paused

To ask for a pause a queue has to be filled, and to ask for another one it has to be filled again from below the
resume mark. What that takes in events is the toll of a queue: a push raises it by one at most and a drain never
does, so pauses cannot come closer together than the marks are apart. A run pushes no more events than its files
have, which bounds how often its reader is paused.
-/

namespace EventFeed.Flow

/-! ## Tolls -/

namespace Queue

/-- How many events a queue must have been given to have asked for its pauses and to be as deep as it is. -/
def toll (queue : Queue) : Nat :=
  if queue.pauses = 0 then queue.depth
  else
    queue.marks.high + (queue.pauses - 1) * (queue.marks.high - queue.marks.resume + 1) +
      if queue.pauseRequested then 0 else queue.depth + 1 - queue.marks.resume

theorem toll_push_le (queue : Queue) (event : Event) : (queue.push event).toll ≤ queue.toll + 1 := by
  unfold toll
  rw [marks_push, depth_push, pauses_push, pauseRequested_push]
  by_cases asks : queue.marks.high ≤ queue.depth + 1 ∧ queue.pauseRequested = false
  · obtain ⟨full, unrequested⟩ := asks
    simp only [full, unrequested, and_self, if_true, decide_true, Bool.or_true, Nat.add_sub_cancel]
    cases before : queue.pauses with
    | zero => simpa using full
    | succ earlier =>
        -- The pause that is asked for now is paid by the depth that was won since the last one ended.
        rw [if_neg (Nat.succ_ne_zero _), if_neg (Nat.succ_ne_zero _), Nat.add_sub_cancel, Nat.succ_mul]
        simp only [Bool.false_eq_true, if_false]
        omega
  · rw [if_neg asks]
    split
    · exact Nat.le_refl _
    · cases requested : queue.pauseRequested with
      | true => exact Nat.le_succ _
      | false =>
          have room : ¬queue.marks.high ≤ queue.depth + 1 := fun full => asks ⟨full, requested⟩
          simp only [room, decide_false, Bool.or_self, Bool.false_eq_true, if_false]
          omega

theorem toll_drain_le (queue : Queue) (most : Nat) : (queue.drain most).toll ≤ queue.toll := by
  unfold toll
  rw [marks_drain, depth_drain, pauses_drain, pauseRequested_drain]
  split
  · exact Nat.sub_le _ _
  · by_cases low : queue.depth - most < queue.marks.resume
    · -- A queue that takes its pause back is below the resume mark, and owes nothing for its depth.
      simp only [low, decide_true, Bool.not_true, Bool.and_false, Bool.false_eq_true, if_false]
      omega
    · simp only [low, decide_false, Bool.not_false, Bool.and_true]
      split <;> omega

/-- The pauses that were asked for are a part of the toll. -/
theorem le_toll (queue : Queue) (asked : 0 < queue.pauses) :
    queue.marks.high + (queue.pauses - 1) * (queue.marks.high - queue.marks.resume + 1) ≤ queue.toll := by
  rw [toll, if_neg (Nat.ne_of_gt asked)]
  exact Nat.le_add_right _ _

end Queue

/-! ## The history of a queue -/

def QueueAct.event? : QueueAct → Option Event
  | .push event => some event
  | .drain _ => none

def pushed (acts : List QueueAct) : List Event :=
  acts.filterMap QueueAct.event?

theorem pushed_concat (acts : List QueueAct) (act : QueueAct) :
    pushed (acts ++ [act]) = pushed acts ++ act.event?.toList := by
  rw [pushed, List.filterMap_append, ← pushed]
  cases act <;> rfl

namespace Shared

variable {marks : Watermarks} {acts : List QueueAct}

/-- A new queue never owes more than it was given. -/
theorem toll_run_le (marks : Watermarks) (acts : List QueueAct) :
    ((start marks).run acts).queue.toll ≤ (pushed acts).length := by
  induction acts using List.reverseRecOn with
  | nil => exact Nat.le_refl 0
  | append_singleton acts act ih =>
      rw [run_concat, pushed_concat, List.length_append]
      cases act with
      | push event =>
          rw [after, queue_push]
          exact Nat.le_trans (Queue.toll_push_le _ event) (Nat.succ_le_succ ih)
      | drain most =>
          rw [after, queue_drain]
          exact Nat.le_trans (Queue.toll_drain_le _ most) ih

theorem pushed_of_pauses (marks : Watermarks) (acts : List QueueAct)
    (asked : 0 < ((start marks).run acts).queue.pauses) :
    marks.high + (((start marks).run acts).queue.pauses - 1) * (marks.high - marks.resume + 1) ≤
      (pushed acts).length := by
  have part := ((start marks).run acts).queue.le_toll asked
  rw [marks_run] at part
  exact Nat.le_trans part (toll_run_le marks acts)

end Shared

/-! ## Runs -/

variable {settings : Settings} {files : List SourceFile} {lines : List SourceLine} {state next : State}

/-- The queue of a run has a history of its own: what was pushed, with the event that is about to be, are the
events of the lines that were read. -/
theorem Course.exists_acts (course : Course settings files lines state) :
    ∃ acts, ((Shared.start settings.marks).run acts).queue = state.shared.queue ∧
      pushed acts ++ state.intake.held.events = eventsOf lines := by
  induction course with
  | start => exact ⟨[], rfl, rfl⟩
  | @read lines state intake shared _ moved ih =>
      obtain ⟨acts, same, whole⟩ := ih
      have moves := Intake.moves_of_step moved
      have grown := moves.toList_append_events
      rcases moves.frame_or_push with ⟨sameQueue, _⟩ | ⟨event, held, rfl, rfl⟩
      · refine ⟨acts, same.trans sameQueue.symm, ?_⟩
        rw [sameQueue, List.append_assoc] at grown
        rw [eventsOf_append, ← whole, List.append_assoc, List.append_cancel_left grown]
      · refine ⟨acts ++ [.push event], ?_, ?_⟩
        · rw [Shared.run_concat, Shared.after, Shared.queue_push, Shared.queue_push, same]
        · rw [Shared.queue_push, Queue.toList_push] at grown
          simp only [List.append_assoc] at grown
          rw [pushed_concat, eventsOf_append, ← whole, List.append_assoc, List.append_assoc]
          exact congrArg _ (List.append_cancel_left grown)
  | send _ moved ih =>
      obtain ⟨acts, same, whole⟩ := ih
      rcases (Sender.moves_of_step moved).frame_or_drain with ⟨sameQueue, _⟩ | ⟨_, drained⟩
      · exact ⟨acts, same.trans sameQueue.symm, whole⟩
      · refine ⟨acts ++ [.drain settings.tuning.maxBatch], ?_, ?_⟩
        · rw [Shared.run_concat, Shared.after, Shared.queue_drain, drained, Shared.queue_drain, same]
        · rw [pushed_concat, ← whole]
          exact congrArg (· ++ _) (List.append_nil _)
  | hear _ _ _ ih => exact ih

/-- A run pushes no more events than its files have. -/
theorem Course.pauses_bound (course : Course settings files lines state)
    (asked : 0 < state.shared.queue.pauses) :
    settings.marks.high +
        (state.shared.queue.pauses - 1) * (settings.marks.high - settings.marks.resume + 1) ≤
      (eventsOf (linesOfFiles files)).length := by
  obtain ⟨acts, same, whole⟩ := course.exists_acts
  rw [← same] at asked ⊢
  have paid := Shared.pushed_of_pauses settings.marks acts asked
  have read := congrArg List.length whole
  rw [← course.lines_append_toCome, eventsOf_append, List.length_append]
  rw [List.length_append] at read
  omega

/-- A run so far, with the number of its steps that paused the reader. -/
inductive PausedTimes (settings : Settings) (files : List SourceFile) : Nat → State → Prop where
  | start : PausedTimes settings files 0 (State.start settings files)
  | step {times : Nat} {state next : State} (earlier : PausedTimes settings files times state)
      (step : Step settings.tuning state next) :
      PausedTimes settings files
        (if state.shared.paused = false ∧ next.shared.paused = true then times + 1 else times) next

theorem PausedTimes.reachable {times : Nat} (paused : PausedTimes settings files times state) :
    Reachable settings files state := by
  induction paused with
  | start => exact .refl
  | step _ step ih => exact .tail ih step

theorem Reachable.exists_pausedTimes (reached : Reachable settings files state) :
    ∃ times, PausedTimes settings files times state := by
  induction reached with
  | refl => exact ⟨0, .start⟩
  | tail _ step ih =>
      obtain ⟨times, earlier⟩ := ih
      exact ⟨_, .step earlier step⟩

/-- A queue that the reader is in step with counts the steps that pause it. -/
theorem Step.pauses_eq {tuning : Sender.Tuning} (inStep : state.shared.InStep) (step : Step tuning state next) :
    next.shared.queue.pauses =
      if state.shared.paused = false ∧ next.shared.paused = true then state.shared.queue.pauses + 1
      else state.shared.queue.pauses := by
  have same (sameQueue : next.shared.queue = state.shared.queue)
      (samePause : next.shared.paused = state.shared.paused) :
      next.shared.queue.pauses =
        if state.shared.paused = false ∧ next.shared.paused = true then state.shared.queue.pauses + 1
        else state.shared.queue.pauses := by
    rw [sameQueue, samePause, if_neg fun both => nomatch both.1.symm.trans both.2]
  cases step with
  | read moved =>
      rcases (Intake.moves_of_step moved).frame_or_push with ⟨sameQueue, samePause⟩ | ⟨event, _, _, rfl⟩
      · exact same sameQueue samePause
      · have after := inStep.push event
        unfold Shared.InStep at inStep after
        rw [after, inStep, Shared.queue_push, Queue.pauses_push, Queue.pauseRequested_push]
        cases state.shared.queue.pauseRequested <;> simp
  | send moved =>
      rcases (Sender.moves_of_step moved).frame_or_drain with ⟨sameQueue, samePause⟩ | ⟨_, rfl⟩
      · exact same sameQueue samePause
      · rw [Shared.queue_drain, Queue.pauses_drain, if_neg]
        rintro ⟨running, paused⟩
        rw [inStep.paused_of_drain paused] at running
        cases running
  | hear => exact same rfl rfl

theorem PausedTimes.eq_pauses {times : Nat} (accepted : settings.Accepted)
    (paused : PausedTimes settings files times state) : state.shared.queue.pauses = times := by
  induction paused with
  | start => rfl
  | step earlier step ih =>
      have inStep := (earlier.reachable.regulated accepted).inStep
      rw [step.pauses_eq inStep, ih]

/-- Pauses do not come close together. A queue that has asked for some was filled once, and for each further pause
it was given as many events as its marks are apart and one more, whatever was put in and taken out. So a run with
accepted settings, in whatever order both sides take their steps, pauses its reader no more often than its events
are enough for, and never when they do not fill the queue once. -/
theorem no_thrashing :
    (∀ (marks : Watermarks) (acts : List QueueAct),
        let pauses := ((Shared.start marks).calls acts).count .pause
        0 < pauses →
          marks.high + (pauses - 1) * (marks.high - marks.resume + 1) ≤ (pushed acts).length) ∧
      ∀ (settings : Settings) (files : List SourceFile) (times : Nat) (state : State),
        settings.Accepted → PausedTimes settings files times state →
          let events := (eventsOf (linesOfFiles files)).length
          (settings.marks.high ≤ events →
              times ≤ 1 + (events - settings.marks.high) /
                (settings.marks.high - settings.marks.resume + 1)) ∧
            (events < settings.marks.high → times = 0) := by
  constructor
  · intro marks acts pauses asked
    have counted : ((Shared.start marks).run acts).queue.pauses = pauses :=
      (Shared.takesTurns_run marks acts).pauses_eq
    rw [← counted] at asked ⊢
    exact Shared.pushed_of_pauses marks acts asked
  · intro settings files times state accepted paused events
    obtain ⟨lines, course⟩ := paused.reachable.course
    have bound := course.pauses_bound
    rw [paused.eq_pauses accepted] at bound
    constructor
    · intro enough
      rcases Nat.eq_zero_or_pos times with none | asked
      · rw [none]
        exact Nat.zero_le _
      · have further : (times - 1) * (settings.marks.high - settings.marks.resume + 1) ≤
            events - settings.marks.high := Nat.le_sub_of_add_le' (bound asked)
        have quotient : times - 1 ≤
            (events - settings.marks.high) / (settings.marks.high - settings.marks.resume + 1) :=
          (Nat.le_div_iff_mul_le (Nat.succ_pos _)).2 further
        omega
    · intro few
      by_contra some
      have filled := bound (Nat.pos_of_ne_zero some)
      omega

/-- A queue for two events is filled, drained to the last one and filled again. Five events are enough for two
pauses of a reader, and there are as many. -/
theorem no_thrashing_troubledRun :
    let event : Event := ⟨[], trivial⟩
    let acts : List QueueAct := [.push event, .push event, .push event, .drain 3, .push event, .push event]
    0 < ((Shared.start ⟨2, 1⟩).calls acts).count .pause ∧ 2 + 1 * (2 - 1 + 1) ≤ (pushed acts).length ∧
      Settings.narrow.Accepted ∧ (eventsOf (linesOfFiles troubledFiles)).length = 5 ∧
      ∃ times, PausedTimes .narrow troubledFiles times (troubledRun 37) ∧ times = 2 ∧
        times ≤ 1 + (5 - 2) / (2 - 1 + 1) := by
  intro event acts
  have asked : ((Shared.start ⟨2, 1⟩).calls acts).count .pause = 2 := by decide +kernel
  have events : (eventsOf (linesOfFiles troubledFiles)).length = 5 := by decide +kernel
  have paid := no_thrashing.1 ⟨2, 1⟩ acts
  rw [asked] at paid
  obtain ⟨lines, course⟩ := exists_course_troubledRun 37
  obtain ⟨times, paused⟩ := course.reachable.exists_pausedTimes
  have counted := paused.eq_pauses Settings.narrow_accepted
  have bound := no_thrashing.2 .narrow troubledFiles times _ Settings.narrow_accepted paused
  rw [events] at bound
  refine ⟨by rw [asked]; decide, paid (by decide), Settings.narrow_accepted, events, times, paused, ?_,
    bound.1 (by decide)⟩
  rw [← counted]
  decide +kernel

end EventFeed.Flow
