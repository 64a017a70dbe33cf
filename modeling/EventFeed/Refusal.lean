import EventFeed.Json.Reader

/-!
# Refused input

Why a line is no event, a list of events no batch, or a name no table's name. All of it is found before
anything is sent.
-/

namespace EventFeed

def maxBatchSize : Nat := 1000

inductive NameFault where
  | empty
  | badCharacter
  deriving DecidableEq, Repr

inductive Refusal where
  /-- Not JSON, or not UTF-8. -/
  | json (error : Json.Error)
  /-- JSON of another kind than an object. -/
  | notAnObject (kind : String)
  | emptyBatch
  | batchTooLarge (length max : Nat)
  | invalidTableName (name : String) (fault : NameFault)

def NameFault.message : NameFault → String
  | .empty => "name is empty"
  | .badCharacter => "only ASCII letters, digits and '_' are allowed"

def Refusal.message : Refusal → String
  | .json error => "JSON error: " ++ error.message
  | .notAnObject kind => "event must be a JSON object, got " ++ kind
  | .emptyBatch => "batch must contain at least one event"
  | .batchTooLarge length max =>
      "batch of " ++ toString length ++ " events exceeds maximum " ++ toString max
  | .invalidTableName name fault => "invalid table name '" ++ name ++ "': " ++ fault.message

end EventFeed
