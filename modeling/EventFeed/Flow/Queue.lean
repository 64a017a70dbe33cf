import EventFeed.Event
import EventFeed.Flow.Fifo

/-!
# The queue between reader and sender

The queue takes every event it is given. When its depth reaches the high mark it asks for a pause, once,
and it asks to go on when a drain has left it below the resume mark. Until then it remembers that the
pause was its own.
-/

namespace EventFeed.Flow

/-- The depths at which the reader is stopped and let go on. -/
structure Watermarks where
  high : Nat
  resume : Nat
  deriving DecidableEq, Repr

inductive Signal where
  | pause
  | resume
  deriving DecidableEq, Repr

/-- How deep a queue has been, and how often it asked for a pause and for its end.

These are plain numbers where `Progress` has 64-bit words that go on from zero. What is said of progress are sums,
which hold between such words too; what is said of pauses are bounds, which would not. A pause takes a push of its
own, so that as long as fewer than 2^64 events are pushed a word holds the same number. -/
structure QueueStats where
  maxDepth : Nat
  pauses : Nat
  resumes : Nat
  deriving DecidableEq, Repr

structure Queue where
  marks : Watermarks
  events : Fifo Event
  /-- A pause was asked for and not taken back yet. -/
  pauseRequested : Bool
  maxDepth : Nat
  pauses : Nat
  resumes : Nat

namespace Queue

def empty (marks : Watermarks) : Queue :=
  ⟨marks, Fifo.empty, false, 0, 0, 0⟩

def stats (queue : Queue) : QueueStats :=
  ⟨queue.maxDepth, queue.pauses, queue.resumes⟩

def depth (queue : Queue) : Nat :=
  queue.events.size

def signalOfPush (queue : Queue) : Option Signal :=
  if queue.marks.high ≤ queue.depth + 1 ∧ queue.pauseRequested = false then some .pause else none

/-- What a drain of up to `count` events makes the queue ask for. -/
def signalOfDrain (queue : Queue) (count : Nat) : Option Signal :=
  if queue.pauseRequested = true ∧ queue.depth - count < queue.marks.resume then some .resume else none

/-- Keeps in mind what was asked for. -/
def remember (queue : Queue) : Option Signal → Queue
  | none => queue
  | some .pause => { queue with pauseRequested := true, pauses := queue.pauses + 1 }
  | some .resume => { queue with pauseRequested := false, resumes := queue.resumes + 1 }

def push (queue : Queue) (event : Event) : Queue :=
  { queue with
    events := queue.events.push event
    maxDepth := max queue.maxDepth (queue.depth + 1) }.remember queue.signalOfPush

def taken (queue : Queue) (count : Nat) : List Event :=
  (queue.events.take count).1

def drain (queue : Queue) (count : Nat) : Queue :=
  { queue with events := (queue.events.take count).2 }.remember (queue.signalOfDrain count)

theorem events_remember (queue : Queue) (signal : Option Signal) :
    (queue.remember signal).events = queue.events := by
  cases signal with
  | none => rfl
  | some signal => cases signal <;> rfl

theorem toList_push (queue : Queue) (event : Event) :
    (queue.push event).events.toList = queue.events.toList ++ [event] := by
  rw [push, events_remember, Fifo.toList_push]

theorem depth_push (queue : Queue) (event : Event) : (queue.push event).depth = queue.depth + 1 := by
  rw [depth, push, events_remember]
  rfl

theorem taken_eq_take (queue : Queue) (count : Nat) :
    queue.taken count = queue.events.toList.take count :=
  Fifo.take_fst _ _

theorem taken_ne_nil {queue : Queue} {count : Nat} (waiting : 0 < queue.depth) (positive : 0 < count) :
    queue.taken count ≠ [] := by
  rw [depth, Fifo.size_eq_length] at waiting
  rw [taken_eq_take, ← List.length_pos_iff, List.length_take]
  exact Nat.lt_min.2 ⟨positive, waiting⟩

theorem toList_drain (queue : Queue) (count : Nat) :
    (queue.drain count).events.toList = queue.events.toList.drop count := by
  rw [drain, events_remember, Fifo.toList_take_snd]

theorem depth_drain (queue : Queue) (count : Nat) : (queue.drain count).depth = queue.depth - count := by
  rw [depth, drain, events_remember, Fifo.size_take_snd]
  rfl

theorem marks_push (queue : Queue) (event : Event) : (queue.push event).marks = queue.marks := by
  unfold push signalOfPush
  split <;> rfl

theorem marks_drain (queue : Queue) (count : Nat) : (queue.drain count).marks = queue.marks := by
  unfold drain signalOfDrain
  split <;> rfl

theorem maxDepth_push (queue : Queue) (event : Event) :
    (queue.push event).maxDepth = max queue.maxDepth (queue.depth + 1) := by
  unfold push signalOfPush
  split <;> rfl

theorem maxDepth_drain (queue : Queue) (count : Nat) : (queue.drain count).maxDepth = queue.maxDepth := by
  unfold drain signalOfDrain
  split <;> rfl

theorem pauseRequested_push (queue : Queue) (event : Event) :
    (queue.push event).pauseRequested =
      (queue.pauseRequested || decide (queue.marks.high ≤ queue.depth + 1)) := by
  unfold push signalOfPush
  cases requested : queue.pauseRequested <;> by_cases full : queue.marks.high ≤ queue.depth + 1 <;>
    simp [remember, full]

theorem pauseRequested_drain (queue : Queue) (count : Nat) :
    (queue.drain count).pauseRequested =
      (queue.pauseRequested && !decide (queue.depth - count < queue.marks.resume)) := by
  unfold drain signalOfDrain
  cases requested : queue.pauseRequested <;>
    by_cases low : queue.depth - count < queue.marks.resume <;> simp [remember, low]

theorem pauses_push (queue : Queue) (event : Event) :
    (queue.push event).pauses =
      if queue.marks.high ≤ queue.depth + 1 ∧ queue.pauseRequested = false then queue.pauses + 1
      else queue.pauses := by
  unfold push signalOfPush
  split <;> rfl

theorem pauses_drain (queue : Queue) (count : Nat) : (queue.drain count).pauses = queue.pauses := by
  unfold drain signalOfDrain
  split <;> rfl

end Queue

end EventFeed.Flow
