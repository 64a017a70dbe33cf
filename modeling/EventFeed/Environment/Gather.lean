import EventFeed.Files.Tree
import EventFeed.Text.Blank

/-!
# Lines of an environment file

A line goes on to the next one as long as a quote is open or the line feed itself is escaped. A comment
that follows white space is cut off, and so is everything on a line that begins with one.
-/

namespace EventFeed.Environment

inductive FileFault where
  | system (fault : SystemFault)
  /-- A line that is none, and where it goes wrong. -/
  | line (text : String) (index : Nat)
  deriving DecidableEq, Repr

def FileFault.message : FileFault → String
  | .system fault => fault.message
  | .line text index => "Error parsing line: '" ++ text ++ "', error at line index: " ++ toString index

/-- Splits behind every line feed. What stands behind the last one comes last. -/
def splitLines : List UInt8 → List (List UInt8) × List UInt8
  | [] => ([], [])
  | b :: rest =>
      match splitLines rest with
      | ([], last) => if b = 0x0A then ([[b]], last) else ([], b :: last)
      | (line :: others, last) =>
          if b = 0x0A then ([b] :: line :: others, last) else ((b :: line) :: others, last)

def lineText (bytes : List UInt8) : Except SystemFault (List Char) :=
  match Utf8.decode? bytes with
  | some text => .ok text
  | none => .error .invalidText

/-- The lines of a file with their line feeds. Reading may end in a fault. -/
def lines : Content → List (Except SystemFault (List Char))
  | .closed fault => [.error fault]
  | .readable bytes fault =>
      let (whole, last) := splitLines bytes
      whole.map lineText ++
        match fault with
        | some fault => [.error fault]
        | none => if last = [] then [] else [lineText last]

/-- The file behind a byte order mark at its beginning. -/
def withoutMark : Content → Content
  | .readable (0xEF :: 0xBB :: 0xBF :: bytes) fault => .readable bytes fault
  | content => content

inductive Quoting where
  | plain
  | blank
  | escaped
  | single
  | singleEscaped
  | double
  | doubleEscaped
  deriving DecidableEq, Repr

namespace Quoting

def ofPlain (c : Char) : Quoting :=
  if c = '\\' then .escaped
  else if c = '"' then .double
  else if c = '\'' then .single
  else .plain

/-- What a character makes of a place; none when a comment begins. -/
def next : Quoting → Char → Option Quoting
  | .plain, c =>
      if Text.isBlank c && c != '\n' && c != '\r' then some .blank else some (ofPlain c)
  | .blank, c => if c = '#' then none else some (ofPlain c)
  | .escaped, _ => some .plain
  | .single, c => some (if c = '\\' then .singleEscaped else if c = '\'' then .plain else .single)
  | .singleEscaped, _ => some .single
  | .double, c => some (if c = '\\' then .doubleEscaped else if c = '"' then .plain else .double)
  | .doubleEscaped, _ => some .double

/-- Goes through a line. The result is what stands before a comment, and the place behind the line when
there is no comment. -/
def scan : Quoting → List Char → List Char × Option Quoting
  | place, [] => ([], some place)
  | place, c :: rest =>
      match place.next c with
      | none => ([], none)
      | some place => (c :: (scan place rest).1, (scan place rest).2)

end Quoting

/-- Takes the line feed from the end of a line, and a carriage return before it. -/
def withoutLineEnd (line : List Char) : List Char :=
  match line.reverse with
  | '\n' :: '\r' :: rest => rest.reverse
  | '\n' :: rest => rest.reverse
  | _ => line

def isComment (line : List Char) : Bool :=
  (line.dropWhile Text.isBlank).head? = some '#'

def byteCount (text : List Char) : Nat :=
  (Utf8.encode text).length

/-- Joins lines that go on, and cuts comments off. -/
def gather (held : List Char) (place : Quoting) :
    List (Except SystemFault (List Char)) → List (Except FileFault (List Char))
  | [] => if place = .plain then [] else [.error (.line (String.ofList held) (byteCount held))]
  | .error fault :: _ => [.error (.system fault)]
  | .ok line :: rest =>
      if isComment (held ++ line) then .ok [] :: gather [] .plain rest
      else
        match place.scan line with
        | (kept, none) => .ok (held ++ kept) :: gather [] .plain rest
        | (_, some .plain) => .ok (withoutLineEnd (held ++ line)) :: gather [] .plain rest
        | (_, some place) => gather (held ++ line) place rest

end EventFeed.Environment
