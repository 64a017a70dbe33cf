import EventFeed.Url.Host

/-!
# URLs

A URL in its parts. Its path is a list of segments, at least one; the root path is one empty segment.
Every part holds the text that is sent, escapes included.
-/

namespace EventFeed

structure Url where
  scheme : String
  user : String
  password : String
  host : Host
  /-- None for the usual port of the scheme. -/
  port : Option Nat
  path : List String
  query : Option String
  fragment : Option String
  deriving DecidableEq, Repr

namespace Url

/-- The usual port of a scheme. -/
def usualPort? (scheme : String) : Option Nat :=
  if scheme = "http" then some 80 else if scheme = "https" then some 443 else none

def effectivePort? (url : Url) : Option Nat :=
  match url.port with
  | some port => some port
  | none => usualPort? url.scheme

def pathText (url : Url) : String :=
  "/" ++ "/".intercalate url.path

/-- A part with a mark before it, nothing where there is no such part. -/
def marked (mark : String) : Option String → String
  | some part => mark ++ part
  | none => ""

def target (url : Url) : String :=
  url.pathText ++ marked "?" url.query

def userText (url : Url) : String :=
  if url.user = "" ∧ url.password = "" then ""
  else if url.password = "" then url.user ++ "@"
  else url.user ++ ":" ++ url.password ++ "@"

def text (url : Url) : String :=
  url.scheme ++ "://" ++ url.userText ++ url.host.text ++
    marked ":" (url.port.map toString) ++ url.target ++ marked "#" url.fragment

/-! ## Going down -/

/-- Tabs and line breaks are passed over wherever they stand. -/
def isPassedOver (c : Char) : Bool :=
  c = '\t' || c = '\n' || c = '\r'

def cleaned (text : String) : List Char :=
  text.toList.filter fun c => !isPassedOver c

/-- A path without the empty segment that a slash at its end makes; the root path stays. -/
def withoutEnd (path : List String) : List String :=
  if 2 ≤ path.length ∧ path.getLast? = some "" then path.dropLast else path

/-- Puts a segment at the end of a path. On the root path it takes the place of the empty one. -/
def addSegment (path : List String) (segment : String) : List String :=
  if path = [""] then [segment] else path ++ [segment]

/-- Goes one step down. One dot and two dots stay where they are; when they are dots only after blanks
were passed over, one dot leads to an empty segment and two lead there from the segment above. -/
def descend (path : List String) (name : String) : List String :=
  if name = "." ∨ name = ".." then path
  else
    let chars := cleaned name
    if chars = ['.', '.'] then addSegment path.dropLast ""
    else if chars = ['.'] then addSegment path ""
    else addSegment path (String.ofList (Percent.escape Percent.keepsSegment chars))

def below (url : Url) (names : List String) : Url :=
  { url with path := names.foldl descend (withoutEnd url.path) }

/-- The URL with more named values in its query. A query without anything is no query. -/
def withPairs (url : Url) (pairs : List (String × String)) : Url :=
  let query := String.ofList (Form.append (url.query.getD "").toList pairs)
  { url with query := if query = "" then none else some query }

end Url

end EventFeed
