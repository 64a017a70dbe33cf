import EventFeed.Files.Path
import EventFeed.Flow.Run
import EventFeed.Text.Thousands

/-!
# The summary of a run

What is printed when a run has come to its end. Figures are set right in a column of twelve; lines about
failures are left out when there were none.
-/

namespace EventFeed.Flow

def figureWidth : Nat := 12

def setRight (width : Nat) (text : String) : String :=
  String.ofList (List.replicate (width - text.length) ' ') ++ text

def label (text : String) : String :=
  text ++ String.ofList (List.replicate (19 - text.length) ' ')

def figureLine (name : String) (figure : Nat) : String :=
  label (name ++ ":") ++ setRight figureWidth (toString figure) ++ "\n"

def failureLine (name : String) (figure : Nat) : String :=
  if figure = 0 then "" else figureLine name figure

def rule : String :=
  String.ofList (List.replicate 66 (Char.ofNat 0x2550)) ++ "\n"

/-- A time in seconds with one decimal. -/
def secondsText (seconds : Binary64) : String :=
  let tenths := seconds.tenths
  toString (tenths / 10) ++ "." ++ toString (tenths % 10)

/-- A rate as a whole number; one that a 64-bit word cannot hold is taken for the largest word. -/
def rateText (rate : Binary64) : String :=
  Text.thousands (min rate.roundToNat (UInt64.size - 1))

def summary (input : Path) (table : String) (report : Report) (rate : Throughput) : String :=
  "\n" ++ rule ++ "SUMMARY\n" ++ rule ++ "\n" ++
    "Input:       " ++ input.text ++ "\n" ++
    "Table:       " ++ table ++ "\n\n" ++
    figureLine "Files read" report.source.filesProcessed ++
    failureLine "Files failed" report.source.filesFailed ++
    figureLine "Lines read" report.progress.linesRead.toNat ++
    figureLine "Bytes read" report.progress.bytesRead.toNat ++
    figureLine "Malformed lines" report.progress.linesMalformed.toNat ++ "\n" ++
    figureLine "Batches sent" report.progress.batchesSent.toNat ++
    figureLine "Batches failed" report.progress.batchesFailed.toNat ++
    figureLine "Events delivered" report.progress.eventsDelivered.toNat ++
    failureLine "Events failed" report.progress.eventsFailed.toNat ++
    figureLine "Queue peak" report.queue.maxDepth ++
    figureLine "Source pauses" report.queue.pauses ++ "\n" ++
    label "Elapsed:" ++ setRight (figureWidth - 1) (secondsText rate.seconds) ++ "s\n" ++
    label "Throughput:" ++ setRight figureWidth (rateText rate.eventsPerSecond) ++ " lines/sec, " ++
    rateText rate.bytesPerSecond ++ " bytes/sec\n"

end EventFeed.Flow
