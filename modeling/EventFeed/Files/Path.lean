import EventFeed.Text.Utf8

/-!
# Paths

A path is a row of bytes in which slashes separate names. One that does not begin with a slash starts from the
working directory.
-/

namespace EventFeed

abbrev FileName : Type := List UInt8

def slash : UInt8 := 0x2F

structure Path where
  bytes : List UInt8
  deriving DecidableEq, Repr

namespace Path

def ofString (text : String) : Path :=
  ⟨Utf8.ofString text⟩

def text (path : Path) : String :=
  Utf8.toStringLossy path.bytes

def join (path : Path) (name : FileName) : Path :=
  if path.bytes = [] ∨ path.bytes.getLast? = some slash then ⟨path.bytes ++ name⟩
  else ⟨path.bytes ++ slash :: name⟩

/-- The path through some names from the top. -/
def ofNames (names : List FileName) : Path :=
  names.foldl join ⟨[slash]⟩

def pieces : List UInt8 → List (List UInt8)
  | [] => [[]]
  | b :: rest =>
      if b = slash then [] :: pieces rest
      else
        match pieces rest with
        | [] => [[b]]
        | piece :: others => (b :: piece) :: others

def dot : FileName := [0x2E]

def dotDot : FileName := [0x2E, 0x2E]

/-- The names to go through, one after the other. A slash at the end asks for a directory. -/
def steps (path : Path) : List FileName :=
  let names := pieces path.bytes
  names.filter (· ≠ []) ++ if 1 < names.length ∧ names.getLast? = some [] then [dot] else []

/-- Whether the path starts from the top. -/
def isAbsolute (path : Path) : Bool :=
  path.bytes.head? = some slash

end Path

end EventFeed
