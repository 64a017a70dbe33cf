import EventFeed.Client.Perform
import EventFeed.Flow.Run

/-!
# Delivery to the cluster

The sink that sends every batch in an insert call of its own. The calls are counted apart from the run and
added to its metrics when these are shown, and at the end.
-/

namespace EventFeed.Flow

def delivering (base : Url) : Sink (StateT Metrics Errand) := fun batch shared => do
  let metrics ← get
  let (result, metrics) ← liftM (Client.perform base (.insert batch) metrics)
  set metrics
  liftM (Errand.exhibit (shared.metrics.merge metrics))
  return (result.mapError .client, shared)

/-- A finished or broken-off run with its sink's metrics among its own. -/
def State.withMetrics (state : State) (metrics : Metrics) : State :=
  { state with shared := { state.shared with metrics := state.shared.metrics.merge metrics } }

/-- Reads an input and delivers its events to the cluster. -/
def deliver (settings : Settings) (base : Url) (found : Except SystemFault Found) :
    Errand (Option State × Result) := do
  let ((state, result), metrics) ← (ingest settings (delivering base) found).run Metrics.empty
  return (state.map fun state => state.withMetrics metrics, result)

end EventFeed.Flow
