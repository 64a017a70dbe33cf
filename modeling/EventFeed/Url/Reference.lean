import EventFeed.Url.Authority

/-!
# References

A reference names a place as seen from a URL: a whole URL, another server, a path from the root, a path
from where the URL is, or only a query. It is read as leniently as the text that names a server. The place
has to have an authority; of a scheme whose servers cannot be asked only this much is read.
-/

namespace EventFeed.Url

inductive Resolved where
  /-- It is no reference, or names no one to ask. -/
  | nowhere
  /-- It leads to a place that cannot be asked. -/
  | unusable
  | place (url : Url)

/-- Controls and spaces are dropped at both ends of a reference. -/
def isEdge (c : Char) : Bool :=
  c.toNat ≤ 0x20

def referenceText (reference : String) : List Char :=
  (((reference.toList.dropWhile isEdge).reverse.dropWhile isEdge).reverse).filter fun c => !isPassedOver c

def isSlash (c : Char) : Bool :=
  c = '/' || c = '\\'

/-- The scheme at the start of a reference in lower case, and what is behind its colon. -/
def splitScheme (text : List Char) : Option (String × List Char) :=
  let scheme := text.takeWhile fun c => c.isAlphanum || c = '+' || c = '-' || c = '.'
  match scheme, text.drop scheme.length with
  | first :: _, ':' :: rest =>
      if first.isAlpha then some (String.ofList (scheme.map Char.toLower), rest) else none
  | _, _ => none

/-! ## Servers -/

def placeOf (url : Url) : Resolved :=
  if Authority.accepts (url.userText ++ url.host.text ++ marked ":" (url.port.map toString)).toList then
    .place url
  else .nowhere

def onServer (scheme : String) (text : List Char) : Resolved :=
  match ofServerText scheme text with
  | .error _ => .nowhere
  | .ok url => placeOf url

/-- The schemes whose servers are named as those of the web are. -/
def isWebScheme (scheme : String) : Bool :=
  ["http", "https", "ws", "wss", "ftp"].contains scheme

/-- What a text leads to that may have an authority and cannot be asked. -/
def unusableIf (hasAuthority : Bool) : Resolved :=
  if hasAuthority then .unusable else .nowhere

/-- Whether a text behind two slashes begins with an authority. -/
def beginsWithAuthority (text : List Char) : Bool :=
  let server := text.takeWhile fun c => c != '/' && c != '?' && c != '#'
  let (_, _, server) := readUser server
  let (host, port) := splitHost false server
  let named := match host with
    | '[' :: rest => rest.getLast? = some ']' && (Host.ipv6? rest.dropLast).isSome
    | name => name ≠ [] && name.all Authority.isNameChar
  named && (readPort "" (port.takeWhile (· ≠ '\\'))).isOk

def elsewhere (scheme : String) (text : List Char) : Resolved :=
  match text with
  | '/' :: '/' :: server => unusableIf (beginsWithAuthority server)
  | '/' :: _ => .nowhere
  | _ =>
      unusableIf (Authority.accepts (scheme.toList ++ ':' :: text.map fun c =>
        if c.toNat < 0x20 || 0x7F ≤ c.toNat then '%' else c))

/-- Where a text behind the scheme of files leads. A file without a server is nowhere. -/
def onFiles (text : List Char) : Resolved :=
  match text with
  | a :: b :: rest =>
      let server := rest.takeWhile fun c => !endsServer c
      let first := ((rest.dropWhile fun c => !endsServer c).drop 1).takeWhile fun c => !endsServer c
      unusableIf (isSlash a && isSlash b && server ≠ [] && !isDrive (String.ofList server) &&
        !isDrive (String.ofList first) &&
        match Host.ofText server with
        | .error _ => false
        | .ok host => host.text ≠ "localhost" && Authority.accepts host.text.toList)
  | _ => .nowhere

/-! ## Places on the same server -/

def queryOf (text : List Char) : String :=
  String.ofList (Percent.escape Percent.keepsQuery text)

/-- Where a reference without scheme and server leads, seen from a URL. -/
def within (url : Url) (text : List Char) : Resolved :=
  let (text, _) := splitAt '#' text
  let (path, query) := splitAt '?' text
  let query := query.map queryOf
  placeOf <| match path with
    | [] => { url with query := if query.isSome then query else url.query }
    | c :: rest =>
        if isSlash c then { url with path := readPath [] rest, query := query }
        else { url with path := readPath url.path.dropLast path, query := query }

/-! ## All references -/

def resolve (url : Url) (reference : String) : Resolved :=
  let text := referenceText reference
  match splitScheme text with
  | some (scheme, rest) =>
      let slashes := (rest.takeWhile isSlash).length
      if scheme = url.scheme ∧ slashes < 2 then within url rest
      else if isWebScheme scheme then onServer scheme (rest.drop slashes)
      else if scheme = "file" then onFiles rest
      else elsewhere scheme rest
  | none =>
      let slashes := (text.takeWhile isSlash).length
      if slashes < 2 then within url text
      else if text.take 2 = ['/', '/'] then onServer url.scheme (text.drop 2)
      else onServer url.scheme (text.drop slashes)

end EventFeed.Url
