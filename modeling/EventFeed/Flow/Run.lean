import EventFeed.Flow.Intake
import EventFeed.Flow.Sender
import EventFeed.Flow.Settings

/-!
# Runs

Reader and sender work side by side, one step of either at a time in any order: that is the relation
`Step`. A run in practice takes one of these orders, in which the sender moves only when the reader
cannot; it is over when the sender is, or when the sender rests while the reader is paused, since then
nothing will ever change.
-/

namespace EventFeed.Flow

structure State where
  intake : Intake
  sender : Sender
  shared : Shared

/-- One step of a run, whoever makes it. The sink may come to any outcome. -/
inductive Step (tuning : Sender.Tuning) : State → State → Prop where
  | read {state : State} {intake : Intake} {shared : Shared}
      (moved : state.intake.step state.shared = some (intake, shared)) :
      Step tuning state { state with intake := intake, shared := shared }
  | send {state : State} {sender : Sender} {shared : Shared}
      (moved : state.sender.step tuning state.shared = some (sender, shared)) :
      Step tuning state { state with sender := sender, shared := shared }
  | hear {state : State} {batch : Batch} (outcome : Outcome)
      (awaited : state.sender.place = .awaiting batch) :
      Step tuning state { state with sender := state.sender.hear batch outcome }

namespace Settings

/-- What the sender is told of the settings. -/
def tuning (settings : Settings) : Sender.Tuning :=
  ⟨settings.table, settings.maxBatch, settings.lowThreshold⟩

end Settings

inductive Ending where
  | complete
  /-- The sender rests, and the reader is paused or gone. -/
  | stalled
  | aborted (refusal : Refusal)
  /-- Broken off before its end. -/
  | unfinished

/-- What a run in practice does next. -/
inductive Next where
  | move (state : State)
  /-- The sink is handed a batch. -/
  | call (batch : Batch)
  | stop (ending : Ending)

/-- The next step, the reader's before the sender's. -/
def State.next (tuning : Sender.Tuning) (state : State) : Next :=
  match state.intake.step state.shared with
  | some (intake, shared) => .move { state with intake := intake, shared := shared }
  | none =>
      match state.sender.place with
      | .awaiting batch => .call batch
      | .resting => .stop .stalled
      | .complete => .stop .complete
      | .aborted refusal => .stop (.aborted refusal)
      | _ =>
          match state.sender.step tuning state.shared with
          | some (sender, shared) => .move { state with sender := sender, shared := shared }
          | none => .stop .stalled

/-- What becomes of a batch that is handed over, and what happens to the common ground meanwhile. -/
abbrev Sink (m : Type → Type) : Type :=
  Batch → Shared → m (Outcome × Shared)

variable {m : Type → Type} [Monad m]

/-- Takes up to `fuel` steps. -/
def State.proceed (tuning : Sender.Tuning) (sink : Sink m) : (fuel : Nat) → State → m (State × Ending)
  | 0, state => pure (state, .unfinished)
  | fuel + 1, state =>
      match state.next tuning with
      | .move state => proceed tuning sink fuel state
      | .call batch => do
          let (outcome, shared) ← sink batch state.shared
          proceed tuning sink fuel
            { state with sender := state.sender.hear batch outcome, shared := shared }
      | .stop ending => pure (state, ending)

/-- How many steps of a turn are left at most. -/
def Sender.Place.work : Sender.Place → Nat
  | .counting _ => 6
  | .offering _ => 5
  | .awaiting _ => 4
  | .recording _ _ => 3
  | .ready => 2
  | .looking _ => 1
  | .taking => 0
  | .resting => 0
  | .complete => 0
  | .aborted _ => 0

/-- How many steps a run in practice has before it at most. A step of the reader may bring an event into the
queue, and every event there may cost the sender a turn. -/
def State.work (state : State) : Nat :=
  8 * state.intake.work + 7 * state.shared.queue.depth + state.sender.place.work

structure Report where
  files : Nat
  source : SourceStats
  queue : QueueStats
  progress : Progress

inductive Result where
  | finished (report : Report)
  | stalled
  | aborted (abort : Abort)
  | unfinished

/-- The result when the input cannot be listed. -/
def Result.unlisted (settings : Settings) (fault : SystemFault) : Result :=
  .aborted (.enumeration settings.input fault)

namespace State

def start (settings : Settings) (files : List SourceFile) : State :=
  ⟨Intake.start files, Sender.start,
    ((Shared.start settings.marks).tell (.foundFiles files.length settings.input)).tell
      (.ingesting files.length settings.table)⟩

def conclude (state : State) : State :=
  { state with
    shared := (state.shared.tell (.complete state.shared.progress)).tell
      (.peak state.shared.queue.maxDepth state.shared.queue.pauses) }

def report (files : Nat) (state : State) : Report :=
  ⟨files, state.intake.reader.stats, state.shared.queue.stats, state.shared.progress⟩

def settle (files : Nat) (state : State) : Ending → State × Result
  | .complete => (state.conclude, .finished (state.conclude.report files))
  | .stalled => (state, .stalled)
  | .aborted refusal => (state, .aborted (.refused refusal))
  | .unfinished => (state, .unfinished)

end State

/-- Reads an input and hands its events to a sink. The state at the end is none when there was nothing to
begin with. -/
def ingest (settings : Settings) (sink : Sink m) (found : Except SystemFault Found) :
    m (Option State × Result) :=
  match found with
  | .error fault => pure (none, .unlisted settings fault)
  | .ok found => do
      let files := SourceFile.ofFound settings.input found
      let start := State.start settings files
      let (state, ending) ← start.proceed settings.tuning sink (start.work + 1)
      let (state, result) := state.settle files.length ending
      return (some state, result)

end EventFeed.Flow
