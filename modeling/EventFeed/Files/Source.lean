import EventFeed.Files.Tree

/-!
# Source files

The files that an input stands for: the file itself, or every file of a directory in the order of their
names. Directories within the directory, and links that lead to no file, are passed over.
-/

namespace EventFeed

structure SourceFile where
  path : Path
  content : Content
  deriving DecidableEq, Repr

namespace SourceFile

def length (file : SourceFile) : Nat :=
  match file.content with
  | .closed _ => 0
  | .readable bytes _ => bytes.length

/-- The order of names, byte by byte. -/
def nameLe (x y : FileName × Content) : Bool :=
  decide (x.1 ≤ y.1)

/-- The names that lead to files, in order. -/
def named (entries : List (FileName × Option Content)) : List (FileName × Content) :=
  (entries.filterMap fun (name, content) => content.map fun content => (name, content)).mergeSort nameLe

def ofFound (input : Path) : Found → List SourceFile
  | .file content => [⟨input, content⟩]
  | .directory entries => (named entries).map fun (name, content) => ⟨input.join name, content⟩

end SourceFile

end EventFeed
