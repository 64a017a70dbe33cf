import EventFeed.Flow.Run

/-!
# Rehearsals

Parts of a run on their own. The sender is tried against a written script: what comes in while a batch is
under way, and what becomes of the batch. The reader is tried by halting it after certain lines.
-/

namespace EventFeed.Flow

/-! ## The sender alone -/

/-- What happens during one call of the sink. -/
structure Cue where
  /-- Events that come in meanwhile. -/
  arrivals : List Event
  /-- No more will come after them. -/
  last : Bool
  outcome : Batch → Outcome

def Cue.play (cue : Cue) (shared : Shared) : Shared :=
  let shared := shared.pushAll cue.arrivals
  if cue.last then shared.markExhausted else shared

/-- A sink that follows a script, and behaves in one way when the script is over. -/
def scripted (usual : Batch → Outcome) : Sink (StateM (List Cue)) := fun batch shared => do
  match ← get with
  | [] => return (usual batch, shared)
  | cue :: rest =>
      set rest
      return (cue.outcome batch, cue.play shared)

/-- Nothing to read, and no word that this is all. -/
def Intake.idle : Intake :=
  ⟨⟨[], .finished, ⟨0, 0, 0, 0⟩⟩, .nothing⟩

def rehearse (tuning : Sender.Tuning) (shared : Shared) (script : List Cue) (usual : Batch → Outcome) :
    State × Ending :=
  let arrivals := (script.map fun cue => cue.arrivals.length).foldr (· + ·) 0
  let start := State.mk Intake.idle Sender.start shared
  ((start.proceed tuning (scripted usual) (start.work + 7 * arrivals + 1)).run script).1

/-! ## The reader alone -/

structure Reading where
  reader : Reader
  shared : Shared
  /-- The lines that were handed over, latest first, and their number. -/
  handed : List SourceLine
  count : Nat
  /-- For every rest, latest first: the lines until then, and whether the end was marked. -/
  rests : List (Nat × Bool)

namespace Reading

def halt (halts : List Nat) (reading : Reading) : Reading :=
  if halts.contains reading.count then
    { reading with shared := { reading.shared with paused := true } }
  else reading

/-- Takes up to `fuel` steps. A reader that has come to rest on a pause is let go on. -/
def proceed (halts : List Nat) : (fuel : Nat) → Reading → Reading
  | 0, reading => reading
  | fuel + 1, reading =>
      match reading.reader.step reading.shared with
      | some (reader, shared, none) => proceed halts fuel { reading with reader := reader, shared := shared }
      | some (reader, shared, some line) =>
          proceed halts fuel (halt halts
            { reading with
              reader := reader
              shared := shared
              handed := line :: reading.handed
              count := reading.count + 1 })
      | none =>
          if reading.shared.paused && reading.reader.place ≠ .finished then
            proceed halts fuel
              { reading with
                shared := { reading.shared with paused := false }
                rests := (reading.count, reading.shared.exhausted) :: reading.rests }
          else reading

/-- Reads some files to their end, halting after the given numbers of lines. -/
def ofFiles (input : Path) (files : List SourceFile) (halts : List Nat) : Reading :=
  let shared := (Shared.start ⟨0, 0⟩).tell (.foundFiles files.length input)
  let reader := Reader.start files
  (halt halts ⟨reader, shared, [], 0, []⟩).proceed halts (2 * reader.work + 2)

end Reading

end EventFeed.Flow
