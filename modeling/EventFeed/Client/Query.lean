import EventFeed.Json.Printer

/-!
# Query options

What may be asked along with a query. An option that is not set is left out wherever the options are
written.
-/

namespace EventFeed.Client

inductive SortOrder where
  | ascending
  | descending
  deriving DecidableEq, Repr

def SortOrder.name : SortOrder → String
  | .ascending => "asc"
  | .descending => "desc"

/-- The options of a query. Numbers are signed 64-bit words. -/
structure QueryOptions where
  debug : Bool
  trim : Option Int64
  sort : Option String
  order : Option SortOrder
  sessionTime : Option Int64
  segments : Option String
  deriving DecidableEq

namespace QueryOptions

def named {α : Type} (name : String) (value : Option α) (text : α → String) : List (String × String) :=
  match value with
  | some value => [(name, text value)]
  | .none => []

def digits (value : Int64) : String :=
  String.ofList (Json.integerChars value.toInt)

/-- The options that are set, in their order. -/
def pairs (options : QueryOptions) : List (String × String) :=
  named "debug" (if options.debug then some () else .none) (fun _ => "true") ++
    named "trim" options.trim digits ++ named "sort" options.sort id ++
    named "order" options.order SortOrder.name ++ named "session_time" options.sessionTime digits ++
    named "segments" options.segments id

def member {α : Type} (name : String) (value : Option α) (write : α → Json) : List (String × Json) :=
  match value with
  | some value => [(name, write value)]
  | .none => []

def number (value : Int64) : Json :=
  .number (.integer value.toInt ⟨value.le_toInt, Int.lt_trans value.toInt_lt (by decide)⟩)

def toJson (options : QueryOptions) : Json :=
  .object (member "debug" (if options.debug then some true else .none) .bool ++
    member "trim" options.trim number ++ member "sort" options.sort .string ++
    member "order" options.order (fun order => .string order.name) ++
    member "session_time" options.sessionTime number ++ member "segments" options.segments .string)

end QueryOptions

end EventFeed.Client
