import EventFeed.Client.Failure
import EventFeed.Environment.Gather
import EventFeed.Flow.Settings

/-!
# Complaints

What a tool tells when it fails: what it could not do, and under it the causes, each with the next one
below. Several causes are numbered. Further lines of a cause are set in as far as its first.
-/

namespace EventFeed.Command

/-- What could not be done, and why. -/
structure Complaint where
  head : String
  causes : List String
  deriving DecidableEq, Repr

namespace Complaint

def lines : List Char → List (List Char)
  | [] => [[]]
  | c :: rest =>
      match lines rest with
      | [] => [[c]]
      | line :: others => if c = '\n' then [] :: line :: others else (c :: line) :: others

def setIn (first further : String) (cause : String) : String :=
  match lines cause.toList with
  | [] => first
  | line :: others =>
      others.foldl (fun text line => text ++ "\n" ++ further ++ String.ofList line)
        (first ++ String.ofList line)

/-- The number of a cause, set right in a column of five. -/
def numbered (index : Nat) : String :=
  let digits := toString index
  String.ofList (List.replicate (5 - digits.length) ' ') ++ digits ++ ": "

def causeLines : List String → List String
  | [] => []
  | [cause] => [setIn "    " "    " cause]
  | causes => causes.zipIdx.map fun (cause, index) => setIn (numbered index) "       " cause

def text (complaint : Complaint) : String :=
  "Error: " ++ complaint.head ++
    if complaint.causes = [] then ""
    else "\n\nCaused by:" ++ String.join ((causeLines complaint.causes).map fun line => "\n" ++ line)

def ofFailure (head : String) (failure : Client.Failure) : Complaint :=
  ⟨head, [failure.message]⟩

def ofSettings (fault : Client.Failure) : Complaint :=
  ⟨fault.message, []⟩

/-- A complaint about an environment file. A fault of the system has itself for its cause. -/
def ofEnvFile (path : Path) (fault : Environment.FileFault) : Complaint :=
  ⟨"could not load env file " ++ path.text,
    match fault with
    | .system _ => [fault.message, fault.message]
    | .line .. => [fault.message]⟩

def ofAbort (abort : Flow.Abort) : Complaint :=
  ⟨"ingestion aborted",
    match abort with
    | .enumeration _ fault => [abort.message, fault.message]
    | _ => [abort.message]⟩

end Complaint

end EventFeed.Command
