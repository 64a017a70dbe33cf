import EventFeed.Client.Answer
import EventFeed.Client.Call
import EventFeed.Errand
import EventFeed.Metrics.Registry
import EventFeed.Metrics.Series

/-!
# Performing calls

A call is one request, sent on to wherever responses direct it, and the meaning of the final response.
Calls that reach sending are counted by route, and so are those of them that fail.
-/

namespace EventFeed.Client

/-- What a reply leads to: a final response, nothing, or the next request. -/
def afterReply (request : Http.Request) (follow : Http.Request → Errand (Option Http.Response)) :
    Http.Reply → Errand (Option Http.Response)
  | .lost => .done none
  | .response response =>
      match request.onward response with
      | .stays => .done (some response)
      | .fails => .done none
      | .follows next => follow next

/-- Sends a request and follows up to `hops` redirects; none when no final response comes of it. -/
def exchange : (hops : Nat) → Http.Request → Errand (Option Http.Response)
  | 0, request => .send request (afterReply request fun _ => .done none)
  | hops + 1, request => .send request (afterReply request (exchange hops))

def outcome : Option Http.Response → Except Failure Json
  | none => .error .request
  | some response => readResponse response

/-- Counts a call that reached sending. -/
def tally (route : String) (result : Except Failure Json) (metrics : Metrics) : Metrics :=
  let metrics := metrics.incrementRoute Series.requests route
  match result with
  | .ok _ => metrics
  | .error _ => metrics.incrementRoute Series.requestErrors route

/-- Performs a call from a base URL. The result comes with the metrics after it. -/
def perform (base : Url) (call : Call) (metrics : Metrics) :
    Errand (Except Failure Json × Metrics) :=
  match call.request base with
  | .error refusal => .done (.error (.refused refusal), metrics)
  | .ok request =>
      (exchange Http.maxRedirects request).bind fun response =>
        .done (outcome response, tally call.route (outcome response) metrics)

end EventFeed.Client
