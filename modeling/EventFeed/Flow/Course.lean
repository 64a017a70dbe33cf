import EventFeed.Flow.Run
import Mathlib.Logic.Relation

/-!
# Courses

A course is a run as it has gone so far, in any order of the two sides' steps, together with the lines that
were read on the way. A run returns when its sender has come to an end, or at once when its input cannot be
listed.
-/

namespace EventFeed.Flow

abbrev Steps (tuning : Sender.Tuning) : State → State → Prop :=
  Relation.ReflTransGen (Step tuning)

/-- The states that a run may come to. -/
def Reachable (settings : Settings) (files : List SourceFile) (state : State) : Prop :=
  Steps settings.tuning (State.start settings files) state

/-- A run so far: the lines that were read, in order, and the state that was reached. -/
inductive Course (settings : Settings) (files : List SourceFile) : List SourceLine → State → Prop where
  | start : Course settings files [] (State.start settings files)
  | read {lines : List SourceLine} {state : State} {intake : Intake} {shared : Shared}
      (earlier : Course settings files lines state)
      (moved : state.intake.step state.shared = some (intake, shared)) :
      Course settings files (lines ++ (state.intake.fetched state.shared).toList)
        { state with intake := intake, shared := shared }
  | send {lines : List SourceLine} {state : State} {sender : Sender} {shared : Shared}
      (earlier : Course settings files lines state)
      (moved : state.sender.step settings.tuning state.shared = some (sender, shared)) :
      Course settings files lines { state with sender := sender, shared := shared }
  | hear {lines : List SourceLine} {state : State} {batch : Batch} (outcome : Outcome)
      (earlier : Course settings files lines state) (awaited : state.sender.place = .awaiting batch) :
      Course settings files lines { state with sender := state.sender.hear batch outcome }

/-- What a run may return, in whatever order both sides take their steps and whatever the sink says, with
the lines that were read and the state in which it ended. There is no such state when the input could not be
listed. -/
inductive Returns (settings : Settings) :
    Except SystemFault Found → List SourceLine → Option State → Result → Prop where
  | unlisted (fault : SystemFault) : Returns settings (.error fault) [] none (.unlisted settings fault)
  | finished {found : Found} {lines : List SourceLine} {state : State}
      (course : Course settings (SourceFile.ofFound settings.input found) lines state)
      (complete : state.sender.place = .complete) :
      Returns settings (.ok found) lines
        (some (state.settle (SourceFile.ofFound settings.input found).length .complete).1)
        (state.settle (SourceFile.ofFound settings.input found).length .complete).2
  | refused {found : Found} {lines : List SourceLine} {state : State} {refusal : Refusal}
      (course : Course settings (SourceFile.ofFound settings.input found) lines state)
      (aborted : state.sender.place = .aborted refusal) :
      Returns settings (.ok found) lines
        (some (state.settle (SourceFile.ofFound settings.input found).length (.aborted refusal)).1)
        (state.settle (SourceFile.ofFound settings.input found).length (.aborted refusal)).2

end EventFeed.Flow
