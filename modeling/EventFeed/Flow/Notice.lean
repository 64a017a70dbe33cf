import EventFeed.Client.Failure
import EventFeed.Files.Path
import EventFeed.Files.Fault
import EventFeed.Flow.Phase
import EventFeed.Flow.Progress
import EventFeed.Text.Thousands

/-!
# Notices

What a run has to tell while it goes on. Rates depend on the clock, which a run does not see: a star
stands in their place.
-/

namespace EventFeed.Flow

inductive SinkFault where
  | client (failure : Client.Failure)
  | rejected (reason : String)

def SinkFault.message : SinkFault → String
  | .client failure => failure.message
  | .rejected reason => "batch rejected: " ++ reason

inductive Level where
  | debug
  | info
  | warning
  | error
  deriving DecidableEq, Repr

def Level.name : Level → String
  | .debug => "DEBUG"
  | .info => "INFO"
  | .warning => "WARN"
  | .error => "ERROR"

inductive Notice where
  | foundFiles (count : Nat) (input : Path)
  | ingesting (count : Nat) (table : String)
  | pausing (depth : Nat)
  | resuming (depth : Nat)
  | phaseChange (before after : Phase)
  | acknowledged (count : Nat) (response : Json)
  | notTaken (count : Nat) (fault : SinkFault)
  | progress (figures : Progress)
  | malformedLine (path : Path) (number : Nat) (refusal : Refusal)
  | fileFinished (path : Path) (lines : Nat)
  | fileSkipped (path : Path) (fault : SystemFault)
  | exhausted
  | complete (figures : Progress)
  | peak (depth pauses : Nat)

namespace Notice

def level : Notice → Level
  | .foundFiles .. => .info
  | .ingesting .. => .info
  | .pausing _ => .debug
  | .resuming _ => .debug
  | .phaseChange .. => .debug
  | .acknowledged .. => .debug
  | .notTaken .. => .error
  | .progress _ => .info
  | .malformedLine .. => .warning
  | .fileFinished .. => .debug
  | .fileSkipped .. => .warning
  | .exhausted => .debug
  | .complete _ => .info
  | .peak .. => .debug

def digits (count : UInt64) : String :=
  toString count.toNat

def text : Notice → String
  | .foundFiles count input => "Found " ++ toString count ++ " source files in " ++ input.text
  | .ingesting count table => "Ingesting " ++ toString count ++ " files into table '" ++ table ++ "'"
  | .pausing depth => "Queue at " ++ toString depth ++ " events, pausing source"
  | .resuming depth => "Queue at " ++ toString depth ++ " events, resuming source"
  | .phaseChange before after => "Shuttler " ++ before.name ++ " -> " ++ after.name
  | .acknowledged count response =>
      "Batch of " ++ toString count ++ " events acknowledged: " ++ response.compact
  | .notTaken count fault => "Batch of " ++ toString count ++ " events failed: " ++ fault.message
  | .progress figures =>
      "@ " ++ Text.thousands figures.eventsConsumed.toNat ++ ", * lines/sec, * bytes/sec (malformed: " ++
        digits figures.linesMalformed ++ ", failed batches: " ++ digits figures.batchesFailed ++ ")"
  | .malformedLine path number refusal =>
      path.text ++ ":" ++ toString number ++ ": skipping malformed line: " ++ refusal.message
  | .fileFinished path lines => "Finished " ++ path.text ++ " (" ++ toString lines ++ " lines)"
  | .fileSkipped path fault => "Skipping rest of " ++ path.text ++ ": " ++ fault.message
  | .exhausted => "Line source exhausted"
  | .complete figures =>
      "Ingestion complete: " ++ digits figures.eventsDelivered ++ " events delivered in " ++
        digits figures.batchesDispatched ++ " batches, " ++ digits figures.eventsFailed ++ " failed, " ++
        digits figures.linesMalformed ++ " malformed lines"
  | .peak depth pauses =>
      "Queue peaked at " ++ toString depth ++ " events, source paused " ++ toString pauses ++ " times"

/-- Whether a notice tells how far a run has come. -/
def isProgress : Notice → Bool
  | .progress _ => true
  | _ => false

end Notice

end EventFeed.Flow
