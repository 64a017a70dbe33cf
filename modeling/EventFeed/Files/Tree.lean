import EventFeed.Files.Fault
import EventFeed.Files.Path

/-!
# Trees of files

Directories, files and symbolic links, and how a path is followed through them. A link is followed
wherever it stands, at most forty of them on one way.
-/

namespace EventFeed

inductive Content where
  /-- It cannot be opened. -/
  | closed (fault : SystemFault)
  /-- Bytes, and what happens to whoever reads on behind them: the end, or a fault. -/
  | readable (bytes : List UInt8) (fault : Option SystemFault)
  deriving DecidableEq, Repr

/-- All bytes of a file, if nothing goes wrong. -/
def Content.whole : Content → Except SystemFault (List UInt8)
  | .closed fault => .error fault
  | .readable _ (some fault) => .error fault
  | .readable bytes none => .ok bytes

def Content.wholeText (content : Content) : Except SystemFault String :=
  match content.whole with
  | .error fault => .error fault
  | .ok bytes =>
      match Utf8.toString? bytes with
      | none => .error .invalidText
      | some text => .ok text

inductive Node where
  | file (content : Content)
  | directory (entries : List (FileName × Node))
  | link (target : Path)

abbrev Entries : Type := List (FileName × Node)

/-- What stands at a path: a file, or a directory with its names and, for those that lead to a file, the
file's content. -/
inductive Found where
  | file (content : Content)
  | directory (entries : List (FileName × Option Content))

/-- What opening gives of what stands at a path. A directory can be opened, but not be read. -/
def Found.content : Found → Content
  | .file content => content
  | .directory _ => .readable [] (some .isDirectory)

namespace Entries

def find? (name : FileName) : Entries → Option Node
  | [] => none
  | (other, node) :: rest => if other = name then some node else find? name rest

/-- Puts a node under a name, in place of one that is there. -/
def put (name : FileName) (node : Node) : Entries → Entries
  | [] => [(name, node)]
  | (other, held) :: rest => if other = name then (name, node) :: rest else (other, held) :: put name node rest

/-- Puts a node where some names lead, making the directories on the way. -/
def insert (node : Node) : List FileName → Entries → Entries
  | [], entries => entries
  | name :: [], entries => put name node entries
  | name :: next :: rest, entries =>
      let inner := match find? name entries with
        | some (.directory inner) => inner
        | _ => []
      put name (.directory (insert node (next :: rest) inner)) entries

def maxName : Nat := 255

def maxPath : Nat := 4095

/-- How many links may be followed on one way. -/
def maxLinks : Nat := 40

/-- Follows names from a directory on, which comes with the directories above it. The result is the content
of a file, or a directory. -/
def walk (links : Nat) (here : Entries) (above : List Entries) :
    List FileName → Except SystemFault (Content ⊕ Entries)
  | [] => .ok (.inr here)
  | name :: rest =>
      if name = Path.dot then walk links here above rest
      else if name = Path.dotDot then
        match above with
        | [] => walk links here [] rest
        | outer :: others => walk links outer others rest
      else if maxName < name.length then .error .nameTooLong
      else
        match find? name here with
        | none => .error .noSuchFile
        | some (.file content) => if rest = [] then .ok (.inl content) else .error .notDirectory
        | some (.directory entries) => walk links entries (here :: above) rest
        | some (.link target) =>
            match links with
            | 0 => .error .tooManyLinks
            | links + 1 =>
                if target.isAbsolute then
                  walk links ((here :: above).getLast (by simp)) [] (target.steps ++ rest)
                else walk links here above (target.steps ++ rest)
  termination_by names => (links, names.length)

/-- Follows a path. The empty one leads nowhere. -/
def follow (top : Entries) (path : Path) : Except SystemFault (Content ⊕ Entries) :=
  if path.bytes = [] then .error .noSuchFile
  else if path.bytes.contains 0 then .error .zeroInName
  else if maxPath < path.bytes.length then .error .nameTooLong
  else walk maxLinks top [] path.steps

def content? (top : Entries) (path : Path) : Option Content :=
  match top.follow path with
  | .ok (.inl content) => some content
  | _ => none

def inspect (top : Entries) (path : Path) : Except SystemFault Found :=
  match top.follow path with
  | .error fault => .error fault
  | .ok (.inl content) => .ok (.file content)
  | .ok (.inr entries) =>
      .ok (.directory (entries.map fun (name, _) => (name, top.content? (path.join name))))

end Entries

end EventFeed
