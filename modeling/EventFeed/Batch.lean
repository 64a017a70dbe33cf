import EventFeed.Event
import EventFeed.Table.Name

/-!
# Batches

A batch is what one insert request carries: between one and `maxBatchSize` events for one table, in
order.
-/

namespace EventFeed

/-- A group of events that is sent in one request. -/
structure Batch where
  table : TableName
  events : List Event
  nonempty : events ≠ []
  small : events.length ≤ maxBatchSize

namespace Batch

/-- The batch of some events. A wrong name is told before a wrong number of events. -/
def make (table : String) (events : List Event) : Except Refusal Batch :=
  match TableName.check table with
  | .error refusal => .error refusal
  | .ok name =>
      if nonempty : events = [] then .error .emptyBatch
      else if small : events.length ≤ maxBatchSize then .ok ⟨name, events, nonempty, small⟩
      else .error (.batchTooLarge events.length maxBatchSize)

theorem events_of_make {table : String} {events : List Event} {batch : Batch}
    (made : make table events = .ok batch) : batch.events = events := by
  unfold make at made
  split at made
  · cases made
  · split at made
    · cases made
    · split at made
      · cases made
        rfl
      · cases made

theorem table_of_make {table : String} {events : List Event} {batch : Batch}
    (made : make table events = .ok batch) : batch.table.text = table := by
  unfold make at made
  split at made
  · cases made
  · rename_i name checked
    have text := TableName.text_of_check checked
    split at made
    · cases made
    · split at made
      · cases made
        exact text
      · cases made

/-- A right name and a right number of events make a batch. -/
theorem make_of_check {table : String} {name : TableName} {events : List Event}
    (checked : TableName.check table = .ok name) (nonempty : events ≠ [])
    (small : events.length ≤ maxBatchSize) : make table events = .ok ⟨name, events, nonempty, small⟩ := by
  simp [make, checked, nonempty, small]

def size (batch : Batch) : Nat :=
  batch.events.length

def toJson (batch : Batch) : Json :=
  .object [("table", .string batch.table.text), ("events", .array (batch.events.map Event.toJson))]

def compact (batch : Batch) : String :=
  batch.toJson.compact

end Batch

end EventFeed
