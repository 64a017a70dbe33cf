import EventFeed.Flow.Shared

/-!
# Two marks

A queue asks for a pause when it is full and takes that back when it is nearly empty. What it remembers in
between is told here for one queue on its own, whatever is put in and taken out, and for the flag that the
reader looks at.
-/

namespace EventFeed.Flow

namespace Queue

/-- What a queue remembers, against how deep it is and was. -/
structure Regular (queue : Queue) : Prop where
  /-- A pause lasts until the depth is below the resume mark. -/
  filled : queue.pauseRequested = true → queue.marks.resume ≤ queue.depth ∧ 0 < queue.pauses
  room : queue.pauseRequested = false → queue.depth < queue.marks.high
  depth_le : queue.depth ≤ queue.maxDepth
  peak : queue.marks.high ≤ queue.maxDepth ↔ 0 < queue.pauses

theorem regular_empty {marks : Watermarks} (apart : marks.resume < marks.high) :
    (Queue.empty marks).Regular where
  filled := nofun
  room _ := Nat.zero_lt_of_lt apart
  depth_le := Nat.le_refl 0
  peak := by
    simp only [empty]
    omega

theorem Regular.push {queue : Queue} (apart : queue.marks.resume < queue.marks.high)
    (regular : queue.Regular) (event : Event) : (queue.push event).Regular := by
  obtain ⟨filled, room, depth_le, peak⟩ := regular
  constructor
  · intro requested
    rw [pauseRequested_push] at requested
    rw [marks_push, depth_push, pauses_push]
    cases before : queue.pauseRequested with
    | true =>
        have held := filled before
        simp only [reduceCtorEq, and_false, if_false]
        omega
    | false =>
        have full : queue.marks.high ≤ queue.depth + 1 := by simpa [before] using requested
        simp only [full, and_self, if_true]
        omega
  · intro running
    rw [pauseRequested_push] at running
    rw [marks_push, depth_push]
    simp only [Bool.or_eq_false_iff, decide_eq_false_iff_not, Nat.not_le] at running
    exact running.2
  · rw [depth_push, maxDepth_push]
    exact Nat.le_max_right _ _
  · rw [marks_push, maxDepth_push, pauses_push]
    split
    · omega
    · rename_i quiet
      cases before : queue.pauseRequested with
      | true =>
          have held := filled before
          omega
      | false =>
          simp only [before, and_true] at quiet
          omega

theorem Regular.drain {queue : Queue} (apart : queue.marks.resume < queue.marks.high)
    (regular : queue.Regular) (count : Nat) : (queue.drain count).Regular := by
  obtain ⟨filled, room, depth_le, peak⟩ := regular
  constructor
  · intro requested
    rw [pauseRequested_drain] at requested
    rw [marks_drain, depth_drain, pauses_drain]
    simp only [Bool.and_eq_true, Bool.not_eq_true', decide_eq_false_iff_not, Nat.not_lt] at requested
    exact ⟨requested.2, (filled requested.1).2⟩
  · intro running
    rw [pauseRequested_drain] at running
    rw [marks_drain, depth_drain]
    cases before : queue.pauseRequested with
    | true =>
        have low : queue.depth - count < queue.marks.resume := by simpa [before] using running
        omega
    | false =>
        have below := room before
        omega
  · rw [depth_drain, maxDepth_drain]
    omega
  · rw [marks_drain, maxDepth_drain, pauses_drain]
    exact peak

end Queue

/-! ## The flag of the reader -/

namespace Shared

/-- The reader is paused exactly while the queue remembers that it asked for it. -/
def InStep (shared : Shared) : Prop :=
  shared.paused = shared.queue.pauseRequested

theorem InStep.push {shared : Shared} (inStep : shared.InStep) (event : Event) :
    (shared.push event).InStep := by
  unfold InStep Shared.push Queue.push
  unfold InStep at inStep
  cases shared.queue.signalOfPush with
  | none => exact inStep
  | some signal => cases signal <;> rfl

theorem InStep.drain {shared : Shared} (inStep : shared.InStep) (most : Nat) :
    (shared.drain most).2.InStep := by
  unfold InStep Shared.drain Queue.drain
  unfold InStep at inStep
  cases shared.queue.signalOfDrain most with
  | none => exact inStep
  | some signal => cases signal <;> rfl

/-- A drain never pauses the reader. -/
theorem InStep.paused_of_drain {shared : Shared} (inStep : shared.InStep) {most : Nat}
    (paused : (shared.drain most).2.paused = true) : shared.paused = true := by
  rw [inStep.drain most, queue_drain, Queue.pauseRequested_drain, Bool.and_eq_true] at paused
  exact inStep.trans paused.1

end Shared

end EventFeed.Flow
