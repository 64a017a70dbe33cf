import EventFeed.Http.Status
import EventFeed.Refusal

/-!
# Failed calls

Why a call to the cluster did not do what it was for.
-/

namespace EventFeed.Client

inductive Failure where
  /-- No usable response came. -/
  | request
  /-- The cluster said why it refused: a class and a message. -/
  | remote (status : Http.Status) (kind message : String)
  /-- A response that is no success and does not say why. -/
  | status (status : Http.Status) (body : String)
  /-- The input was refused before anything was sent. -/
  | refused (refusal : Refusal)
  /-- The settings do not lead to a cluster. -/
  | settings (reason : String)

def Failure.message : Failure → String
  | .request => "request error"
  | .remote code kind message => kind ++ " error (" ++ code.text ++ "): " ++ message
  | .status code body => "unexpected response (" ++ code.text ++ "): " ++ body
  | .refused refusal => refusal.message
  | .settings reason => "Configuration error: " ++ reason

end EventFeed.Client
