import EventFeed.Throughput

/-!
# Counts of a run

Every count is a 64-bit word and goes on from zero when it is full, since lines may be as long as they like. The
figures of the queue are plain numbers; see `QueueStats`.
-/

namespace EventFeed.Flow

structure Progress where
  linesRead : UInt64
  bytesRead : UInt64
  eventsParsed : UInt64
  linesMalformed : UInt64
  /-- Events that left the queue. -/
  eventsConsumed : UInt64
  eventsDelivered : UInt64
  eventsFailed : UInt64
  batchesSent : UInt64
  batchesFailed : UInt64
  deriving DecidableEq, Repr

namespace Progress

def start : Progress := ⟨0, 0, 0, 0, 0, 0, 0, 0, 0⟩

/-- Counts a line of so many bytes; its terminator counts for one. -/
def line (progress : Progress) (length : Nat) : Progress :=
  { progress with
    linesRead := progress.linesRead + 1
    bytesRead := progress.bytesRead + UInt64.ofNat (length + 1) }

def parsed (progress : Progress) : Progress :=
  { progress with eventsParsed := progress.eventsParsed + 1 }

/-- Counts a line that is neither an event nor blank. -/
def malformed (progress : Progress) : Progress :=
  { progress with linesMalformed := progress.linesMalformed + 1 }

/-- Counts events taken from the queue. -/
def consumed (progress : Progress) (count : Nat) : Progress :=
  { progress with eventsConsumed := progress.eventsConsumed + UInt64.ofNat count }

def sent (progress : Progress) (count : Nat) : Progress :=
  { progress with
    eventsDelivered := progress.eventsDelivered + UInt64.ofNat count
    batchesSent := progress.batchesSent + 1 }

def failed (progress : Progress) (count : Nat) : Progress :=
  { progress with
    eventsFailed := progress.eventsFailed + UInt64.ofNat count
    batchesFailed := progress.batchesFailed + 1 }

/-- All batches that were sent off, accepted or not. -/
def batchesDispatched (progress : Progress) : UInt64 :=
  progress.batchesSent + progress.batchesFailed

/-- The averages of a run after a span of time. Events count when they leave the queue. -/
def throughput (progress : Progress) (span : Duration) : Throughput :=
  Throughput.ofFigures span progress.eventsConsumed.toNat progress.bytesRead.toNat

end Progress

end EventFeed.Flow
