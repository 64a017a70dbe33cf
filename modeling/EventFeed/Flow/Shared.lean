import EventFeed.Flow.Notice
import EventFeed.Flow.Queue
import EventFeed.Metrics.Registry
import EventFeed.Metrics.Series

/-!
# What reader and sender share

The queue, the flag that pauses the reader, the mark that nothing more will be read, and everything that
is written down on the way. Each operation below is one step that nothing else comes in between.
-/

namespace EventFeed.Flow

structure Shared where
  queue : Queue
  /-- The reader is not to go on. -/
  paused : Bool
  /-- Nothing more will be read. -/
  exhausted : Bool
  progress : Progress
  metrics : Metrics
  /-- What was told, latest first. -/
  journal : List Notice

namespace Shared

def start (marks : Watermarks) : Shared :=
  ⟨Queue.empty marks, false, false, Progress.start, Metrics.empty, []⟩

/-- What was told, in order. -/
def notices (shared : Shared) : List Notice :=
  shared.journal.reverse

def tell (shared : Shared) (notice : Notice) : Shared :=
  { shared with journal := notice :: shared.journal }

def count (shared : Shared) (name : String) (n : Nat) : Shared :=
  { shared with metrics := shared.metrics.increment name n }

def showOn (shared : Shared) (name : String) (n : Nat) : Shared :=
  { shared with metrics := shared.metrics.setGauge name (Binary64.ofNat n) }

/-- Does what the queue asked for at a depth. -/
def heed (shared : Shared) (depth : Nat) : Option Signal → Shared
  | none => shared
  | some .pause => ({ shared with paused := true }.showOn Series.sourcePaused 1).tell (.pausing depth)
  | some .resume => ({ shared with paused := false }.showOn Series.sourcePaused 0).tell (.resuming depth)

def push (shared : Shared) (event : Event) : Shared :=
  let queue := shared.queue.push event
  ({ shared with queue := queue }.heed queue.depth shared.queue.signalOfPush).showOn Series.queueDepth
    queue.depth

def pushAll (shared : Shared) (events : List Event) : Shared :=
  events.foldl push shared

/-- Takes up to `most` events out of the queue. -/
def drain (shared : Shared) (most : Nat) : List Event × Shared :=
  let queue := shared.queue.drain most
  (shared.queue.taken most,
    ({ shared with queue := queue }.heed queue.depth (shared.queue.signalOfDrain most)).showOn
      Series.queueDepth queue.depth)

def recordLine (shared : Shared) (length : Nat) : Shared :=
  { shared with progress := shared.progress.line length }

def recordParsed (shared : Shared) : Shared :=
  { shared with progress := shared.progress.parsed }

def recordMalformed (shared : Shared) : Shared :=
  { shared with progress := shared.progress.malformed }

def recordConsumed (shared : Shared) (count : Nat) : Shared :=
  { shared with progress := shared.progress.consumed count }

def recordSent (shared : Shared) (count : Nat) : Shared :=
  { shared with progress := shared.progress.sent count }

def recordFailed (shared : Shared) (count : Nat) : Shared :=
  { shared with progress := shared.progress.failed count }

def markExhausted (shared : Shared) : Shared :=
  { shared with exhausted := true }

def report (shared : Shared) : Shared :=
  shared.tell (.progress shared.progress)

theorem queue_heed (shared : Shared) (depth : Nat) (signal : Option Signal) :
    (shared.heed depth signal).queue = shared.queue := by
  cases signal with
  | none => rfl
  | some signal => cases signal <;> rfl

theorem exhausted_heed (shared : Shared) (depth : Nat) (signal : Option Signal) :
    (shared.heed depth signal).exhausted = shared.exhausted := by
  cases signal with
  | none => rfl
  | some signal => cases signal <;> rfl

theorem progress_heed (shared : Shared) (depth : Nat) (signal : Option Signal) :
    (shared.heed depth signal).progress = shared.progress := by
  cases signal with
  | none => rfl
  | some signal => cases signal <;> rfl

theorem queue_push (shared : Shared) (event : Event) :
    (shared.push event).queue = shared.queue.push event :=
  queue_heed _ _ _

theorem exhausted_push (shared : Shared) (event : Event) :
    (shared.push event).exhausted = shared.exhausted :=
  exhausted_heed _ _ _

theorem progress_push (shared : Shared) (event : Event) :
    (shared.push event).progress = shared.progress :=
  progress_heed _ _ _

theorem queue_drain (shared : Shared) (most : Nat) :
    (shared.drain most).2.queue = shared.queue.drain most :=
  queue_heed _ _ _

theorem exhausted_drain (shared : Shared) (most : Nat) :
    (shared.drain most).2.exhausted = shared.exhausted :=
  exhausted_heed _ _ _

theorem progress_drain (shared : Shared) (most : Nat) :
    (shared.drain most).2.progress = shared.progress :=
  progress_heed _ _ _

end Shared

end EventFeed.Flow
