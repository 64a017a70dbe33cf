/-!
# What the sender does next

A turn of the sender is decided by three things: how many events wait, whether the reader has come to the
end, and how many events are worth a request before that.
-/

namespace EventFeed.Flow

inductive Phase where
  /-- Nothing waits. -/
  | idle
  /-- Too few events wait. -/
  | accumulating
  | dispatching
  /-- No more events will come: what waits is sent, however few. -/
  | draining
  | complete
  deriving DecidableEq, Repr

namespace Phase

def decide (queued : Nat) (exhausted : Bool) (lowThreshold : Nat) : Phase :=
  if queued = 0 then if exhausted then .complete else .idle
  else if exhausted then .draining
  else if queued < lowThreshold then .accumulating
  else .dispatching

def sendsBatch : Phase → Bool
  | .dispatching => true
  | .draining => true
  | .idle => false
  | .accumulating => false
  | .complete => false

theorem decide_eq_complete_iff (queued : Nat) (exhausted : Bool) (lowThreshold : Nat) :
    decide queued exhausted lowThreshold = .complete ↔ queued = 0 ∧ exhausted = true := by
  unfold decide
  cases exhausted <;> grind

/-- A batch is sent of what waits when no more will come, or when enough waits. -/
theorem sendsBatch_decide_iff (queued : Nat) (exhausted : Bool) (lowThreshold : Nat) :
    (decide queued exhausted lowThreshold).sendsBatch = true ↔
      0 < queued ∧ (exhausted = true ∨ lowThreshold ≤ queued) := by
  unfold decide
  cases exhausted <;> grind [sendsBatch]

def name : Phase → String
  | .idle => "Idle"
  | .accumulating => "Accumulating"
  | .dispatching => "Dispatching"
  | .draining => "Draining"
  | .complete => "Complete"

end Phase

end EventFeed.Flow
