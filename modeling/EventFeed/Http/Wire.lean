import EventFeed.Http.Message
import EventFeed.Text.Blank
import EventFeed.Text.Utf8

/-!
# Messages on the wire

How a request is written as bytes, and how a response is read from those that have come so far. The head of
a message ends with an empty line. The body of a response has the length that the head tells, or comes in
pieces with a length each, or ends with the connection.
-/

namespace EventFeed.Http

def lineEnd : List UInt8 := [0x0D, 0x0A]

def headLine (text : String) : List UInt8 :=
  Utf8.ofString text ++ lineEnd

namespace Request

def serverText (request : Request) : String :=
  request.url.host.text ++ match request.url.port with
    | some port => ":" ++ toString port
    | none => ""

def wire (request : Request) : List UInt8 :=
  let body := (request.body.map fun body => Utf8.ofString body.text).getD []
  headLine (request.method.name ++ " " ++ request.url.target ++ " HTTP/1.1") ++
    headLine ("host: " ++ request.serverText) ++ headLine "accept: */*" ++ headLine "connection: close" ++
    (match request.body with
      | some body => headLine ("content-type: " ++ body.contentType)
      | none => []) ++
    (if request.method = .get then [] else headLine ("content-length: " ++ toString body.length)) ++
    lineEnd ++ body

end Request

/-! ## Reading -/

/-- The line at the beginning of bytes, and what follows its line feed; none without a line feed. -/
def takeLine : List UInt8 → Option (List UInt8 × List UInt8)
  | [] => none
  | b :: rest =>
      if b = 0x0A then some ([], rest) else (takeLine rest).map fun (line, rest) => (b :: line, rest)

theorem takeLine_shorter {bytes line rest : List UInt8} (taken : takeLine bytes = some (line, rest)) :
    rest.length < bytes.length := by
  induction bytes generalizing line rest with
  | nil => cases taken
  | cons b bytes ih =>
      rw [takeLine] at taken
      split at taken
      · cases taken
        exact Nat.lt_succ_self _
      · cases found : takeLine bytes with
        | none => rw [found] at taken; cases taken
        | some parts =>
            rw [found] at taken
            cases taken
            exact Nat.lt_succ_of_lt (ih found)

def lineText (line : List UInt8) : List Char :=
  match line.reverse with
  | 0x0D :: rest => Utf8.decodeLossy rest.reverse
  | _ => Utf8.decodeLossy line

/-- The lines of a head up to the empty one, and what follows it. -/
def takeHead (bytes : List UInt8) : Option (List (List Char) × List UInt8) :=
  match _taken : takeLine bytes with
  | none => none
  | some (line, rest) =>
      if lineText line = [] then some ([], rest)
      else (takeHead rest).map fun (lines, rest) => (lineText line :: lines, rest)
  termination_by bytes.length
  decreasing_by exact takeLine_shorter _taken

def numberOf? (base : Nat) (digits : List Char) : Option Nat :=
  if digits = [] then none
  else digits.foldl (fun number c =>
    match number, Percent.hexValue? c with
    | some number, some digit => if digit < base then some (number * base + digit) else none
    | _, _ => none) (some 0)

def statusOf? (line : List Char) : Option Status :=
  (numberOf? 10 (((line.dropWhile (· ≠ ' ')).drop 1).takeWhile (· ≠ ' '))).bind Status.ofNat?

def headerOf (line : List Char) : String × String :=
  (String.ofList (Text.trim (line.takeWhile (· ≠ ':'))),
    String.ofList (Text.trim ((line.dropWhile (· ≠ ':')).drop 1)))

inductive Received (α : Type) where
  | whole (value : α)
  /-- More may come. -/
  | part
  | broken

/-- A body in pieces. Each has its length in base sixteen on a line before it; the last one is empty. -/
def pieces : (fuel : Nat) → List UInt8 → Received (List UInt8)
  | 0, _ => .broken
  | fuel + 1, bytes =>
      match takeLine bytes with
      | none => .part
      | some (line, rest) =>
          match numberOf? 16 (Text.trim ((lineText line).takeWhile (· ≠ ';'))) with
          | none => .broken
          | some 0 => .whole []
          | some length =>
              if rest.length < length then .part
              else
                match takeLine (rest.drop length) with
                | none => .part
                | some (_, rest') =>
                    match pieces fuel rest' with
                    | .whole others => .whole (rest.take length ++ others)
                    | .part => .part
                    | .broken => .broken

def bodyOf (closed : Bool) (headers : List (String × String)) (status : Status) (rest : List UInt8) :
    Received (List UInt8) :=
  let header? (name : String) := (headers.find? fun entry => entry.1.toLower == name).map Prod.snd
  if status.code = 204 ∨ status.code = 304 then .whole []
  else if (header? "transfer-encoding").any fun value => value.toLower == "chunked" then
    pieces (rest.length + 1) rest
  else
    match header? "content-length" with
    | none => if closed then .whole rest else .part
    | some digits =>
        match numberOf? 10 digits.toList with
        | none => .broken
        | some length => if rest.length < length then .part else .whole (rest.take length)

/-- The response in the bytes that have come so far. When the connection is closed no more will come. -/
def received (closed : Bool) (bytes : List UInt8) : Received Response :=
  match takeHead bytes with
  | none => .part
  | some ([], _) => .broken
  | some (line :: lines, rest) =>
      match statusOf? line with
      | none => .broken
      | some status =>
          match bodyOf closed (lines.map headerOf) status rest with
          | .whole body => .whole ⟨status, lines.map headerOf, body⟩
          | .part => .part
          | .broken => .broken

/-! ## Serving -/

def askedPath? (bytes : List UInt8) : Option String :=
  match takeHead bytes with
  | some (line :: _, _) =>
      some (String.ofList (((line.dropWhile (· ≠ ' ')).drop 1).takeWhile fun c => c ≠ ' ' ∧ c ≠ '?'))
  | _ => none

def answer (status : Status) (text : String) : List UInt8 :=
  let body := Utf8.ofString text
  headLine ("HTTP/1.1 " ++ status.text) ++ headLine "content-type: text/plain" ++
    headLine ("content-length: " ++ toString body.length) ++ headLine "connection: close" ++ lineEnd ++ body

end EventFeed.Http
