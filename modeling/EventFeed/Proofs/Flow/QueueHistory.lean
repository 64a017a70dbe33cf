import EventFeed.Flow.Gate
import EventFeed.Proofs.Flow.Hysteresis
import EventFeed.Proofs.Flow.Ledgers
import Mathlib.Data.List.Induction

/-!
# The history of a queue

Events are put into a queue and taken out of it in any order, also while it asks for a pause. What the queue
remembers is told here by what has happened to it since it was new: the calls that it made, the depths that it
had, and whether it was filled after the last drain that left it below the resume mark.
-/

namespace EventFeed.Flow

inductive QueueAct where
  | push (event : Event)
  | drain (most : Nat)

namespace Shared

variable {marks : Watermarks} {shared : Shared} {act : QueueAct} {acts : List QueueAct} {signals : List Signal}

def after (shared : Shared) : QueueAct → Shared
  | .push event => shared.push event
  | .drain most => (shared.drain most).2

def run (shared : Shared) (acts : List QueueAct) : Shared :=
  acts.foldl after shared

/-- The call that the queue makes when something is done with it. -/
def call? (shared : Shared) : QueueAct → Option Signal
  | .push _ => shared.queue.signalOfPush
  | .drain most => shared.queue.signalOfDrain most

def calls (shared : Shared) : List QueueAct → List Signal
  | [] => []
  | act :: acts => (shared.call? act).toList ++ (shared.after act).calls acts

theorem run_concat (shared : Shared) (acts : List QueueAct) (act : QueueAct) :
    shared.run (acts ++ [act]) = (shared.run acts).after act :=
  List.foldl_append

theorem calls_concat (shared : Shared) (acts : List QueueAct) (act : QueueAct) :
    shared.calls (acts ++ [act]) = shared.calls acts ++ ((shared.run acts).call? act).toList := by
  induction acts generalizing shared with
  | nil => exact List.append_nil _
  | cons first acts ih =>
      rw [List.cons_append, calls, calls, ih, List.append_assoc]
      rfl

theorem marks_after (shared : Shared) (act : QueueAct) :
    (shared.after act).queue.marks = shared.queue.marks := by
  cases act with
  | push event => rw [after, queue_push, Queue.marks_push]
  | drain most => rw [after, queue_drain, Queue.marks_drain]

theorem marks_run (shared : Shared) (acts : List QueueAct) :
    (shared.run acts).queue.marks = shared.queue.marks := by
  induction acts generalizing shared with
  | nil => rfl
  | cons act acts ih => exact (ih (shared.after act)).trans (shared.marks_after act)

/-! ## Calls -/

/-- What a call changes in the memory of the queue. -/
theorem remembered_after (shared : Shared) (act : QueueAct) :
    (shared.after act).queue.pauseRequested = (shared.queue.remember (shared.call? act)).pauseRequested ∧
      (shared.after act).queue.pauses = (shared.queue.remember (shared.call? act)).pauses ∧
      (shared.after act).queue.resumes = (shared.queue.remember (shared.call? act)).resumes := by
  cases act with
  | push event =>
      rw [after, call?, queue_push, Queue.push]
      cases shared.queue.signalOfPush with
      | none => exact ⟨rfl, rfl, rfl⟩
      | some signal => cases signal <;> exact ⟨rfl, rfl, rfl⟩
  | drain most =>
      rw [after, call?, queue_drain, Queue.drain]
      cases shared.queue.signalOfDrain most with
      | none => exact ⟨rfl, rfl, rfl⟩
      | some signal => cases signal <;> exact ⟨rfl, rfl, rfl⟩

/-- A queue asks for a pause only when it has not asked for it already, and takes back only what it asked for. -/
theorem pauseRequested_of_call? {signal : Signal} (made : shared.call? act = some signal) :
    shared.queue.pauseRequested = decide (signal = .resume) := by
  cases act with
  | push event =>
      rw [call?, Queue.signalOfPush] at made
      split at made
      · rename_i full
        cases made
        exact full.2
      · cases made
  | drain most =>
      rw [call?, Queue.signalOfDrain] at made
      split at made
      · rename_i low
        cases made
        exact low.1
      · cases made

/-- The calls take turns, and the queue remembers how many of each there were and which one is next. -/
structure TakesTurns (signals : List Signal) (shared : Shared) : Prop where
  turns : ∀ index call, signals[index]? = some call → (call = .pause ↔ index % 2 = 0)
  requested_eq : shared.queue.pauseRequested = decide (signals.length % 2 = 1)
  pauses_eq : shared.queue.pauses = signals.count .pause
  resumes_eq : shared.queue.resumes = signals.count .resume

theorem takesTurns_start (marks : Watermarks) : TakesTurns [] (start marks) :=
  ⟨nofun, rfl, rfl, rfl⟩

/-- A pause at an even place, or a resumption at an odd one, is in its turn. -/
theorem turns_concat {signal : Signal}
    (turns : ∀ index call, signals[index]? = some call → (call = .pause ↔ index % 2 = 0))
    (itsTurn : signal = .pause ↔ signals.length % 2 = 0) (index : Nat) (call : Signal)
    (found : (signals ++ [signal])[index]? = some call) : call = .pause ↔ index % 2 = 0 := by
  rw [List.getElem?_append] at found
  split at found
  · exact turns index call found
  · rename_i beyond
    obtain ⟨within, same⟩ := List.getElem?_eq_some_iff.1 found
    rw [List.length_singleton] at within
    have last : index = signals.length := by omega
    rw [List.getElem_singleton] at same
    rw [last, ← same]
    exact itsTurn

/-- The call that a queue makes is in its turn. -/
theorem TakesTurns.itsTurn {signal : Signal} (takesTurns : TakesTurns signals shared)
    (made : shared.call? act = some signal) : signal = .pause ↔ signals.length % 2 = 0 := by
  have before := (pauseRequested_of_call? made).symm.trans takesTurns.requested_eq
  cases signal <;> simp_all

theorem TakesTurns.after (takesTurns : TakesTurns signals shared) (act : QueueAct) :
    TakesTurns (signals ++ (shared.call? act).toList) (shared.after act) := by
  obtain ⟨turns, requested_eq, pauses_eq, resumes_eq⟩ := id takesTurns
  obtain ⟨requested_after, pauses_after, resumes_after⟩ := shared.remembered_after act
  cases made : shared.call? act with
  | none =>
      rw [made] at requested_after pauses_after resumes_after
      rw [Option.toList_none, List.append_nil]
      exact ⟨turns, requested_after.trans requested_eq, pauses_after.trans pauses_eq,
        resumes_after.trans resumes_eq⟩
  | some signal =>
      have itsTurn := takesTurns.itsTurn made
      rw [made] at requested_after pauses_after resumes_after
      rw [Option.toList_some]
      refine ⟨turns_concat turns itsTurn, ?_, ?_, ?_⟩
      · rw [requested_after, List.length_append, List.length_singleton]
        cases signal with
        | pause =>
            have even := itsTurn.1 rfl
            exact (decide_eq_true (by omega)).symm
        | resume =>
            have odd : ¬signals.length % 2 = 0 := fun even => by cases itsTurn.2 even
            exact (decide_eq_false (by omega)).symm
      · rw [pauses_after, List.count_append]
        cases signal <;> simp [Queue.remember, pauses_eq]
      · rw [resumes_after, List.count_append]
        cases signal <;> simp [Queue.remember, resumes_eq]

theorem takesTurns_run (marks : Watermarks) (acts : List QueueAct) :
    TakesTurns ((start marks).calls acts) ((start marks).run acts) := by
  induction acts using List.reverseRecOn with
  | nil => exact takesTurns_start marks
  | append_singleton acts act ih =>
      rw [calls_concat, run_concat]
      exact ih.after act

/-- The last call is the one that matches what the queue remembers. -/
theorem TakesTurns.last (takesTurns : TakesTurns signals shared) :
    signals.getLast?.getD .resume = if shared.queue.pauseRequested then .pause else .resume := by
  obtain ⟨turns, requested_eq, _, _⟩ := takesTurns
  rw [List.getLast?_eq_getElem?]
  cases found : signals[signals.length - 1]? with
  | none =>
      have none : signals.length = 0 := by
        have beyond := List.getElem?_eq_none_iff.1 found
        omega
      rw [requested_eq, none]
      rfl
  | some call =>
      obtain ⟨within, _⟩ := List.getElem?_eq_some_iff.1 found
      have itsTurn := turns _ call found
      rw [requested_eq, Option.getD_some]
      cases call with
      | pause =>
          have even := itsTurn.1 rfl
          rw [if_pos (decide_eq_true (by omega))]
      | resume =>
          have odd : ¬(signals.length - 1) % 2 = 0 := fun even => by cases itsTurn.2 even
          rw [if_neg (by simpa using (by omega : signals.length % 2 = 0))]

end Shared

def Gate.heed (gate : Gate) : Signal → Gate
  | .pause => gate.pause
  | .resume => gate.resume

/-- A gate is left as the last call wants it. -/
theorem Gate.shut_heed (gate : Gate) (calls : List Signal) :
    (calls.foldl Gate.heed gate).shut =
      (calls.getLast?.map fun call => decide (call = .pause)).getD gate.shut := by
  cases calls using List.reverseRecOn with
  | nil => rfl
  | append_singleton calls call =>
      rw [List.foldl_append, List.getLast?_concat]
      cases call <;> rfl

namespace Shared

variable {marks : Watermarks} {shared : Shared} {act : QueueAct} {acts : List QueueAct} {signals : List Signal}

/-! ## Depths -/

def depthAfter (marks : Watermarks) (acts : List QueueAct) : Nat :=
  ((start marks).run acts).queue.depth

/-- A push has filled the queue, and no drain since has left it below the resume mark. -/
def Filled (marks : Watermarks) (acts : List QueueAct) : Prop :=
  ∃ first event, first ++ [.push event] <+: acts ∧ marks.high ≤ depthAfter marks (first ++ [.push event]) ∧
    ∀ later most, first ++ [.push event] <+: later → later ++ [.drain most] <+: acts →
      marks.resume ≤ depthAfter marks (later ++ [.drain most])

theorem not_filled_nil (marks : Watermarks) : ¬Filled marks [] := by
  rintro ⟨first, event, within, _⟩
  exact absurd (List.prefix_nil.1 within) (by simp)

theorem filled_push (marks : Watermarks) (acts : List QueueAct) (event : Event) :
    Filled marks (acts ++ [.push event]) ↔
      Filled marks acts ∨ marks.high ≤ depthAfter marks (acts ++ [.push event]) := by
  constructor
  · rintro ⟨first, filling, within, full, kept⟩
    rcases List.prefix_concat_iff.1 within with here | before
    · right
      rw [← here]
      exact full
    · left
      exact ⟨first, filling, before, full, fun later most since until_ =>
        kept later most since (until_.trans (List.prefix_append _ _))⟩
  · rintro (⟨first, filling, before, full, kept⟩ | full)
    · refine ⟨first, filling, before.trans (List.prefix_append _ _), full, ?_⟩
      intro later most since until_
      rcases List.prefix_concat_iff.1 until_ with here | before
      · cases (List.append_inj' here rfl).2
      · exact kept later most since before
    · refine ⟨acts, event, List.prefix_rfl, full, ?_⟩
      intro later most since until_
      have longer := since.length_le
      have shorter := until_.length_le
      rw [List.length_append, List.length_singleton] at longer shorter
      rw [List.length_append, List.length_singleton] at shorter
      omega

theorem filled_drain (marks : Watermarks) (acts : List QueueAct) (most : Nat) :
    Filled marks (acts ++ [.drain most]) ↔
      Filled marks acts ∧ marks.resume ≤ depthAfter marks (acts ++ [.drain most]) := by
  constructor
  · rintro ⟨first, filling, within, full, kept⟩
    rcases List.prefix_concat_iff.1 within with here | before
    · cases (List.append_inj' here rfl).2
    · refine ⟨⟨first, filling, before, full, fun later most since until_ =>
        kept later most since (until_.trans (List.prefix_append _ _))⟩, ?_⟩
      exact kept acts most before List.prefix_rfl
  · rintro ⟨⟨first, filling, before, full, kept⟩, high⟩
    refine ⟨first, filling, before.trans (List.prefix_append _ _), full, ?_⟩
    intro later taken since until_
    rcases List.prefix_concat_iff.1 until_ with here | before
    · rw [here]
      exact high
    · exact kept later taken since before

/-- A queue remembers that it was filled as long as that is so. -/
theorem pauseRequested_iff_filled (marks : Watermarks) (acts : List QueueAct) :
    ((start marks).run acts).queue.pauseRequested = true ↔ Filled marks acts := by
  induction acts using List.reverseRecOn with
  | nil => exact iff_of_false nofun (not_filled_nil marks)
  | append_singleton acts act ih =>
      have marks_eq : ((start marks).run acts).queue.marks = marks := marks_run _ _
      cases act with
      | push event =>
          rw [filled_push, ← ih, depthAfter, run_concat, after, queue_push, Queue.pauseRequested_push,
            Queue.depth_push, marks_eq, Bool.or_eq_true, decide_eq_true_iff]
      | drain most =>
          rw [filled_drain, ← ih, depthAfter, run_concat, after, queue_drain, Queue.pauseRequested_drain,
            Queue.depth_drain, marks_eq, Bool.and_eq_true, Bool.not_eq_true', decide_eq_false_iff_not,
            Nat.not_lt]

/-- No depth on the way was greater than the greatest one, and one of them was as great. -/
theorem maxDepth_run (marks : Watermarks) (acts : List QueueAct) :
    (∀ first, first <+: acts → depthAfter marks first ≤ ((start marks).run acts).queue.maxDepth) ∧
      ∃ first, first <+: acts ∧ depthAfter marks first = ((start marks).run acts).queue.maxDepth := by
  induction acts using List.reverseRecOn with
  | nil =>
      refine ⟨fun first within => ?_, [], List.prefix_rfl, rfl⟩
      rw [List.prefix_nil.1 within]
      exact Nat.le_refl 0
  | append_singleton acts act ih =>
      obtain ⟨bounded, deepest, within, attained⟩ := ih
      have grown : ((start marks).run (acts ++ [act])).queue.maxDepth =
          max ((start marks).run acts).queue.maxDepth (depthAfter marks (acts ++ [act])) := by
        cases act with
        | push event =>
            rw [depthAfter, run_concat, after, queue_push, Queue.maxDepth_push, Queue.depth_push]
        | drain most =>
            have here := bounded acts List.prefix_rfl
            rw [depthAfter] at here
            rw [depthAfter, run_concat, after, queue_drain, Queue.maxDepth_drain, Queue.depth_drain]
            omega
      rw [grown]
      constructor
      · intro first within
        rcases List.prefix_concat_iff.1 within with here | before
        · rw [here]
          exact Nat.le_max_right _ _
        · exact Nat.le_trans (bounded first before) (Nat.le_max_left _ _)
      · rcases Nat.le_total (depthAfter marks (acts ++ [act])) ((start marks).run acts).queue.maxDepth with
          less | more
        · exact ⟨deepest, within.trans (List.prefix_append _ _), by rw [attained, Nat.max_eq_left less]⟩
        · exact ⟨acts ++ [act], List.prefix_rfl, (Nat.max_eq_right more).symm⟩

/-! ## The whole history -/

/-- What holds of a queue and of everything that it tells others, whatever is done with it. -/
structure Kept (shared : Shared) : Prop where
  regular : shared.queue.Regular
  inStep : shared.InStep
  booked : shared.Booked

theorem kept_run (apart : marks.resume < marks.high) (acts : List QueueAct) :
    ((start marks).run acts).Kept := by
  induction acts using List.reverseRecOn with
  | nil => exact ⟨Queue.regular_empty apart, rfl, .start marks⟩
  | append_singleton acts act ih =>
      obtain ⟨regular, inStep, booked⟩ := ih
      have marks_eq : ((start marks).run acts).queue.marks = marks := marks_run _ _
      rw [← marks_eq] at apart
      rw [run_concat]
      cases act with
      | push event =>
          refine ⟨?_, inStep.push event, booked.push event⟩
          rw [after, queue_push]
          exact regular.push apart event
      | drain most =>
          refine ⟨?_, inStep.drain most, booked.drain most⟩
          rw [after, queue_drain]
          exact regular.drain apart most

/-- Whatever was put into a new queue and taken out of it: its calls take turns, beginning with a pause, and it
counts them; it wants the pause exactly if a push has filled it since a drain last left it below the resume mark;
as long as it does so it is not below that mark, and otherwise it is not full; the last call, the gauge, the flag
that the reader looks at and a gate that heeds the calls all say the same; and no depth was greater than the
greatest one that it tells, and one was as great. -/
theorem hysteresis (apart : marks.resume < marks.high) (acts : List QueueAct) :
    let shared := (start marks).run acts
    let calls := (start marks).calls acts
    ((∀ index call, calls[index]? = some call → (call = .pause ↔ index % 2 = 0)) ∧
        shared.queue.stats.pauses = calls.count .pause ∧ shared.queue.stats.resumes = calls.count .resume ∧
        shared.queue.stats.pauses =
          if shared.queue.pauseRequested then shared.queue.stats.resumes + 1 else shared.queue.stats.resumes) ∧
      (shared.queue.pauseRequested = true ↔ Filled marks acts) ∧
      (shared.queue.pauseRequested = true → marks.resume ≤ shared.queue.depth) ∧
      (shared.queue.pauseRequested = false → shared.queue.depth < marks.high) ∧
      (calls.getLast?.getD .resume = (if shared.queue.pauseRequested then .pause else .resume) ∧
        (∀ shown ∈ shared.metrics.gauge? Series.sourcePaused,
          shown = Binary64.ofNat (if shared.queue.pauseRequested then 1 else 0)) ∧
        shared.paused = shared.queue.pauseRequested ∧
        (calls.foldl Gate.heed Gate.new).shut = shared.queue.pauseRequested) ∧
      (∀ first, first <+: acts → depthAfter marks first ≤ shared.queue.stats.maxDepth) ∧
      ∃ first, first <+: acts ∧ depthAfter marks first = shared.queue.stats.maxDepth := by
  intro shared calls
  have marks_eq : shared.queue.marks = marks := marks_run _ _
  have takesTurns : TakesTurns calls shared := takesTurns_run marks acts
  obtain ⟨regular, inStep, booked⟩ : shared.Kept := kept_run apart acts
  have last := takesTurns.last
  refine ⟨⟨takesTurns.turns, takesTurns.pauses_eq, takesTurns.resumes_eq, ?_⟩,
    pauseRequested_iff_filled marks acts, ?_, ?_, ⟨last, ?_, inStep, ?_⟩, maxDepth_run marks acts⟩
  · have balance := booked.pauses_eq
    rw [Queue.stats, balance]
    cases shared.queue.pauseRequested <;> rfl
  · intro requested
    rw [← marks_eq]
    exact (regular.filled requested).1
  · intro running
    rw [← marks_eq]
    exact regular.room running
  · intro shown displayed
    rw [booked.paused_eq shown displayed]
    cases shared.queue.pauseRequested <;> rfl
  · rw [Gate.shut_heed]
    revert last
    cases calls.getLast? with
    | none => cases shared.queue.pauseRequested <;> simp [Gate.new]
    | some call => cases call <;> cases shared.queue.pauseRequested <;> simp

/-- An event without members goes in and out: the queue is filled and pushed to once more, a drain of nothing and
one that leaves it full do not end the pause, one of more than there is ends it, and it is filled again. -/
def fillings : List QueueAct :=
  let event : Event := ⟨[], trivial⟩
  [.push event, .push event, .push event, .push event, .drain 0, .drain 1, .drain 9, .push event, .push event,
    .push event]

theorem hysteresis_fillings :
    let marks : Watermarks := ⟨3, 2⟩
    let shared := (start marks).run fillings
    marks.resume < marks.high ∧ (start marks).calls fillings = [.pause, .resume, .pause] ∧
      shared.queue.stats = ⟨4, 2, 1⟩ ∧ Filled marks fillings ∧ 2 ≤ shared.queue.depth ∧
      ¬Filled marks (fillings.take 9) ∧
      (((start marks).calls fillings).foldl Gate.heed Gate.new).shut = true ∧
      ∃ first, first <+: fillings ∧ depthAfter marks first = 4 := by
  intro marks shared
  have apart : marks.resume < marks.high := by decide
  have requested : shared.queue.pauseRequested = true := by decide +kernel
  have running : ((start marks).run (fillings.take 9)).queue.pauseRequested = false := by decide +kernel
  have stats : shared.queue.stats = ⟨4, 2, 1⟩ := by decide +kernel
  obtain ⟨_, filled, deep, _, ⟨_, _, _, shut⟩, _, greatest⟩ := hysteresis apart fillings
  obtain ⟨_, unfilled, _⟩ := hysteresis apart (fillings.take 9)
  refine ⟨apart, ?_, stats, filled.1 requested, deep requested, ?_, shut.trans requested, ?_⟩
  · decide +kernel
  · intro full
    exact nomatch running.symm.trans (unfilled.2 full)
  · rw [stats] at greatest
    exact greatest

end Shared

end EventFeed.Flow
