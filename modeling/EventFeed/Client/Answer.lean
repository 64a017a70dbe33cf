import EventFeed.Client.Failure
import EventFeed.Client.Rejection
import EventFeed.Http.Message
import EventFeed.Text.Blank

/-!
# Answers

What a final response means. A success carries a JSON value, or nothing, or a text that is taken as it is;
anything else carries an envelope with the cluster's reason, or a text.
-/

namespace EventFeed.Client

def successValue (body : String) : Json :=
  if Text.isBlankText body.toList then .null
  else
    match Json.parseText body with
    | .ok value => value
    | .error _ => .string body

def failureOf (status : Http.Status) (body : String) : Failure :=
  match (Document.decode (Utf8.ofString body) : Except Json.Error Envelope) with
  | .ok envelope => .remote status envelope.rejection.kind envelope.rejection.message
  | .error _ => .status status body

/-- What a final response means. -/
def readResponse (response : Http.Response) : Except Failure Json :=
  let body := Utf8.toStringLossy response.body
  if response.status.isSuccess then .ok (successValue body) else .error (failureOf response.status body)

end EventFeed.Client
