import EventFeed.Http.Status
import EventFeed.Url.Reference

/-!
# Requests and responses

What is asked of a server and what comes back. A response with certain codes sends the request elsewhere:
some of them keep what was asked, others turn it into a plain question without a body.
-/

namespace EventFeed.Http

inductive Method where
  | get
  | put
  | post
  | delete
  deriving DecidableEq, Repr

def Method.name : Method → String
  | .get => "GET"
  | .put => "PUT"
  | .post => "POST"
  | .delete => "DELETE"

structure Body where
  contentType : String
  text : String
  deriving DecidableEq, Repr

structure Request where
  method : Method
  url : Url
  body : Option Body
  deriving DecidableEq, Repr

structure Response where
  status : Status
  headers : List (String × String)
  body : List UInt8
  deriving DecidableEq, Repr

inductive Reply where
  | response (response : Response)
  /-- No response came. -/
  | lost

inductive Onward where
  /-- The response is final. -/
  | stays
  /-- It cannot be understood, or leads to a place that cannot be asked. -/
  | fails
  | follows (next : Request)

namespace Response

/-- What a header says; its name counts without regard to case. -/
def header? (response : Response) (name : String) : Option String :=
  (response.headers.find? fun entry => entry.1.toLower == name.toLower).map Prod.snd

/-- Whether a character can stand in what a header says. Of the controls only the tab can. -/
def isHeaderChar (c : Char) : Bool :=
  c = '\t' || (0x20 ≤ c.toNat && c.toNat != 0x7F)

/-- Whether what the headers say can be told apart. -/
def isLegible (response : Response) : Bool :=
  response.headers.all fun entry => entry.2.toList.all isHeaderChar

end Response

namespace Request

/-- A plain question to the same place. -/
def asQuestion (request : Request) : Request :=
  { request with method := .get, body := none }

/-- What is asked next when a status leads elsewhere; none for a status that does not. -/
def afterStatus? (request : Request) (status : Status) : Option Request :=
  if status.code = 301 ∨ status.code = 302 then
    some (if request.method = .post then request.asQuestion else request)
  else if status.code = 303 then some request.asQuestion
  else if status.code = 307 ∨ status.code = 308 then some request
  else none

def onward (request : Request) (response : Response) : Onward :=
  if response.isLegible then
    match request.afterStatus? response.status, response.header? "location" with
    | some next, some location =>
        match request.url.resolve location with
        | .nowhere => .stays
        | .unusable => .fails
        | .place url => .follows { next with url := url }
    | _, _ => .stays
  else .fails

end Request

/-- How often a request may be sent elsewhere. -/
def maxRedirects : Nat := 10

end EventFeed.Http
