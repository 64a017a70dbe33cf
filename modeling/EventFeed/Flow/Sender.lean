import EventFeed.Batch
import EventFeed.Flow.Shared

/-!
# The sender

The sender looks at the end mark and then at the depth of the queue, decides, and either drains a batch
and hands it to the sink, one at a time, or rests until its next turn. Looking, looking again, draining,
counting, handing over and writing down the outcome are steps of their own; what others do in between may
change what the later ones find.
-/

namespace EventFeed.Flow

abbrev Outcome : Type := Except SinkFault Json

structure Sender.Tuning where
  table : String
  maxBatch : Nat
  lowThreshold : Nat
  deriving DecidableEq, Repr

inductive Sender.Place where
  /-- About to look at the end mark. -/
  | ready
  /-- Has seen the end mark and is about to look at the depth. -/
  | looking (exhausted : Bool)
  /-- About to drain. -/
  | taking
  /-- About to count what was drained. -/
  | counting (events : List Event)
  /-- About to hand over what was counted. -/
  | offering (events : List Event)
  /-- Waits for what the sink makes of a batch. -/
  | awaiting (batch : Batch)
  /-- About to write down an outcome. -/
  | recording (count : Nat) (outcome : Outcome)
  /-- Waits for its next turn. -/
  | resting
  | complete
  /-- Could not make a batch of what it had drained. -/
  | aborted (refusal : Refusal)

structure Sender where
  phase : Phase
  place : Sender.Place
  /-- The batches handed to the sink, latest first. -/
  handed : List Batch

namespace Sender

def start : Sender := ⟨.idle, .ready, []⟩

/-- The batches handed to the sink, in order. -/
def batches (sender : Sender) : List Batch :=
  sender.handed.reverse

/-- Changes the phase and tells so if it is another one. -/
def enter (sender : Sender) (shared : Shared) (phase : Phase) : Sender × Shared :=
  if phase = sender.phase then (sender, shared)
  else ({ sender with phase := phase }, shared.tell (.phaseChange sender.phase phase))

def placeOf (phase : Phase) : Place :=
  if phase = .complete then .complete else if phase.sendsBatch then .taking else .resting

def record (shared : Shared) (count : Nat) : Outcome → Shared
  | .ok response =>
      ((((shared.recordSent count).count Series.batchesSent 1).count Series.eventsSent count).tell
        (.acknowledged count response)).report
  | .error fault =>
      ((((shared.recordFailed count).count Series.batchesFailed 1).count Series.eventsFailed count).tell
        (.notTaken count fault)).report

/-- One step that needs nobody else; none when the sender waits for the sink or has come to its end. -/
def step (tuning : Tuning) (sender : Sender) (shared : Shared) : Option (Sender × Shared) :=
  match sender.place with
  | .ready => some ({ sender with place := .looking shared.exhausted }, shared)
  | .looking exhausted =>
      let phase := Phase.decide shared.queue.depth exhausted tuning.lowThreshold
      let (sender, shared) := sender.enter shared phase
      some ({ sender with place := placeOf phase }, shared)
  | .taking =>
      let (events, shared) := shared.drain tuning.maxBatch
      some ({ sender with place := if events = [] then .ready else .counting events }, shared)
  | .counting events =>
      some ({ sender with place := .offering events }, shared.recordConsumed events.length)
  | .offering events =>
      match Batch.make tuning.table events with
      | .error refusal => some ({ sender with place := .aborted refusal }, shared)
      | .ok batch => some ({ sender with place := .awaiting batch, handed := batch :: sender.handed }, shared)
  | .recording count outcome => some ({ sender with place := .ready }, record shared count outcome)
  | .resting => some ({ sender with place := .ready }, shared)
  | .awaiting _ => none
  | .complete => none
  | .aborted _ => none

def hear (sender : Sender) (batch : Batch) (outcome : Outcome) : Sender :=
  { sender with place := .recording batch.size outcome }

end Sender

end EventFeed.Flow
