import EventFeed.Flow.Reader
import EventFeed.Line

/-!
# From lines to the queue

A line that the reader hands over is told what it is, and an event among them is put into the queue; these
are two steps, and the reader does not go on before both are done.
-/

namespace EventFeed.Flow

/-- What was taken over from the reader and is not done with. -/
inductive Intake.Held where
  | nothing
  | line (line : SourceLine)
  | event (event : Event)

structure Intake where
  reader : Reader
  held : Intake.Held

namespace Intake

def start (files : List SourceFile) : Intake :=
  ⟨Reader.start files, .nothing⟩

def classify (intake : Intake) (shared : Shared) (line : SourceLine) : Intake × Shared :=
  match Line.classify line.bytes with
  | .event event => ({ intake with held := .event event }, shared.recordParsed)
  | .blank => ({ intake with held := .nothing }, shared)
  | .malformed refusal =>
      ({ intake with held := .nothing },
        (shared.recordMalformed.count Series.linesMalformed 1).tell
          (.malformedLine line.path line.number refusal))

/-- One step; none when the reader is paused or has finished. -/
def step (intake : Intake) (shared : Shared) : Option (Intake × Shared) :=
  match intake.held with
  | .line line => some (intake.classify shared line)
  | .event event => some ({ intake with held := .nothing }, shared.push event)
  | .nothing =>
      match intake.reader.step shared with
      | none => none
      | some (reader, shared, none) => some (⟨reader, .nothing⟩, shared)
      | some (reader, shared, some line) => some (⟨reader, .line line⟩, shared)

/-- The line that the next step reads, if it reads one. -/
def fetched (intake : Intake) (shared : Shared) : Option SourceLine :=
  match intake.held with
  | .nothing => (intake.reader.step shared).bind fun (_, _, handed) => handed
  | .line _ => none
  | .event _ => none

/-- How many steps an intake has before it at most. -/
def work (intake : Intake) : Nat :=
  3 * intake.reader.work +
    match intake.held with
    | .line _ => 2
    | .event _ => 1
    | .nothing => 0

end Intake

end EventFeed.Flow
