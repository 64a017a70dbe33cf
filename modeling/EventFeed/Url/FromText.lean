import EventFeed.Url.Basic

/-!
# Reading URLs

A text that names a server is read leniently: backslashes count as slashes, tabs and line breaks are passed
over, and whatever may not stand for itself is escaped. The user is all that stands before the last at
sign; the host ends at a colon outside brackets.
-/

namespace EventFeed.Url

def endsServer (c : Char) : Bool :=
  c = '/' || c = '\\' || c = '?' || c = '#'

/-! ## The server -/

/-- What stands before and behind the last at sign. -/
def splitUser : List Char → Option (List Char × List Char)
  | [] => none
  | c :: rest =>
      match splitUser rest with
      | some (before, behind) => some (c :: before, behind)
      | none => if c = '@' then some ([], rest) else none

def userPart (text : List Char) : String :=
  String.ofList (Percent.escape Percent.keepsUser text)

def readUser (server : List Char) : String × String × List Char :=
  match splitUser server with
  | none => ("", "", server)
  | some (before, behind) =>
      (userPart (before.takeWhile (· ≠ ':')), userPart ((before.dropWhile (· ≠ ':')).drop 1), behind)

/-- Where the host ends: at the first colon outside brackets. -/
def splitHost (bracketed : Bool) : List Char → List Char × List Char
  | [] => ([], [])
  | c :: rest =>
      if c = ':' ∧ bracketed = false then ([], c :: rest)
      else
        let (host, port) := splitHost (if c = '[' then true else if c = ']' then false else bracketed) rest
        (c :: host, port)

def portOf? (digits : List Char) : Option Nat :=
  if digits.all Char.isDigit then
    (Host.spelled 10 digits).bind fun n => if n < 65536 then some n else none
  else none

/-- The port behind the host; none where it is left out or the usual one. -/
def readPort (scheme : String) : List Char → Except UrlFault (Option Nat)
  | ':' :: [] => .ok none
  | ':' :: digits =>
      match portOf? digits with
      | none => .error .badPort
      | some port => .ok (if some port = usualPort? scheme then none else some port)
  | _ => .ok none

/-! ## The path -/

def leadsUp (segment : String) : Bool :=
  ["..", "%2e%2e", "%2e%2E", "%2E%2e", "%2E%2E", "%2e.", "%2E.", ".%2e", ".%2E"].contains segment

def leadsNowhere (segment : String) : Bool :=
  [".", "%2e", "%2E"].contains segment

/-- Whether a segment is a letter and a colon or a bar. No step up goes past such a segment. -/
def isDrive (segment : String) : Bool :=
  match segment.toList with
  | [letter, mark] => letter.isAlpha && (mark = ':' || mark = '|')
  | _ => false

def stepUp (path : List String) : List String :=
  match path.getLast? with
  | some last => if isDrive last then path else path.dropLast
  | none => []

/-- The segments that stand for themselves, from those read. What was read last is the segment after the
last slash. -/
def settle (above : List String) : List String → List String
  | [] => above
  | segment :: [] =>
      if leadsUp segment then stepUp above ++ [""]
      else if leadsNowhere segment then above ++ [""]
      else above ++ [segment]
  | segment :: next :: rest =>
      if leadsUp segment then settle (stepUp above) (next :: rest)
      else if leadsNowhere segment then settle above (next :: rest)
      else settle (above ++ [segment]) (next :: rest)

/-- The path of a text in which backslashes count as slashes, behind the segments above it. -/
def readPath (above : List String) (text : List Char) : List String :=
  settle above ((Form.pieces '/' (text.map fun c => if c = '\\' then '/' else c)).map fun segment =>
    String.ofList (Percent.escape Percent.keepsPath segment))

def readRootPath (text : List Char) : List String :=
  match text with
  | [] => readPath [] []
  | c :: rest => readPath [] (if c = '/' || c = '\\' then rest else text)

/-! ## The whole -/

def splitAt (mark : Char) (text : List Char) : List Char × Option (List Char) :=
  (text.takeWhile (· ≠ mark),
    match text.dropWhile (· ≠ mark) with
    | [] => none
    | _ :: behind => some behind)

def ofServerText (scheme : String) (text : List Char) : Except UrlFault Url := do
  let (user, password, server) := readUser (text.takeWhile fun c => !endsServer c)
  let (host, port) := splitHost false server
  if host = [] then throw .emptyHost
  let host ← Host.ofText host
  let port ← readPort scheme port
  let (text, fragment) := splitAt '#' (text.dropWhile fun c => !endsServer c)
  let (path, query) := splitAt '?' text
  return {
    scheme := scheme
    user := user
    password := password
    host := host
    port := port
    path := readRootPath path
    query := query.map fun query => String.ofList (Percent.escape Percent.keepsQuery query)
    fragment := fragment.map fun text => String.ofList (Percent.escape Percent.keepsFragment text) }

def ofHttpText (text : String) : Except UrlFault Url :=
  ofServerText "http" ((cleaned text).dropWhile fun c => c = '/' || c = '\\')

end EventFeed.Url
