/-!
# Series

The names of the counters and gauges, and what each of them says.
-/

namespace EventFeed.Series

def filesRead : String := "ingest_files_total"

def filesFailed : String := "ingest_files_failed_total"

def linesRead : String := "ingest_lines_total"

def bytesRead : String := "ingest_bytes_total"

def linesMalformed : String := "ingest_lines_malformed_total"

def queueDepth : String := "ingest_queue_depth"

def sourcePaused : String := "ingest_source_paused"

def batchesSent : String := "ingest_batches_sent_total"

def batchesFailed : String := "ingest_batches_failed_total"

def eventsSent : String := "ingest_events_sent_total"

def eventsFailed : String := "ingest_events_failed_total"

def batchDuration : String := "ingest_batch_duration_seconds"

def eventRate : String := "ingest_events_per_second"

def byteRate : String := "ingest_bytes_per_second"

def running : String := "ingest_running"

def requests : String := "client_requests_total"

def requestErrors : String := "client_request_errors_total"

def descriptions : List (String × String) :=
  [(filesRead, "Source files fully read"),
    (filesFailed, "Source files abandoned after an open or read error"),
    (linesRead, "Raw lines read from source files"),
    (bytesRead, "Bytes read from source files (line length + 1 per line)"),
    (linesMalformed, "Lines discarded because they were not a JSON object"),
    (queueDepth, "Parsed events waiting to be batched"),
    (sourcePaused, "Whether the line source is paused by backpressure (1=yes, 0=no)"),
    (batchesSent, "Batches acknowledged by the cluster"),
    (batchesFailed, "Batches rejected or lost in transit"),
    (eventsSent, "Events in acknowledged batches"),
    (eventsFailed, "Events in failed batches"),
    (batchDuration, "Round-trip time of one insert request"),
    (eventRate, "Rolling event throughput"),
    (byteRate, "Rolling byte throughput"),
    (running, "Whether an ingestion run is in progress (1=yes, 0=no)"),
    (requests, "Requests sent to the cluster (label: route)"),
    (requestErrors, "Requests that failed or were rejected (label: route)")]

/-- What a series says, for those that are described. -/
def description? (name : String) : Option String :=
  (descriptions.find? fun entry => entry.1 == name).map Prod.snd

end EventFeed.Series
