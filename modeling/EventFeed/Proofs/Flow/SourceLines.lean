import EventFeed.Flow.Intake
import Mathlib.Data.List.TakeWhile

/-!
# The lines of the files

What a reader has to hand over is told here from the content of the files alone: the pieces between line
feeds, trimmed and numbered in every file, and the events among them. `Reader.toCome` is what is left of it
for a reader on its way.
-/

namespace EventFeed.Flow

/-! ## The lines of some bytes -/

/-- The pieces that are lines. The last piece is no line when a fault cuts it short, or when nothing
stands behind the last line feed. -/
def completePieces (bytes : List UInt8) (fault : Option SystemFault) : List (List UInt8) :=
  let pieces := bytes.splitOn lineFeed
  if fault.isSome ∨ pieces.getLast? = some [] then pieces.dropLast else pieces

/-- The lines of some bytes, behind which may be a fault. -/
def linesOfBytes (bytes : List UInt8) (fault : Option SystemFault) : List (List UInt8) :=
  (completePieces bytes fault).map trimReturn

theorem lineFeed_notMem_takeWhile (bytes : List UInt8) : lineFeed ∉ bytes.takeWhile (· ≠ lineFeed) := by
  intro inside
  simpa using List.mem_takeWhile_imp inside

/-- Where the first line feed is, the text behind it begins. -/
theorem dropWhile_lineFeed_cases (bytes : List UInt8) :
    bytes.dropWhile (· ≠ lineFeed) = [] ∨ bytes.dropWhile (· ≠ lineFeed) = lineFeed :: afterFirstLine bytes := by
  rw [afterFirstLine]
  cases behind : bytes.dropWhile (· ≠ lineFeed) with
  | nil => exact .inl rfl
  | cons first rest =>
      have feed : first = lineFeed := by
        have stopped := List.head?_dropWhile_not (· ≠ lineFeed) bytes
        rw [behind] at stopped
        simpa using stopped
      exact .inr (by rw [feed]; rfl)

theorem splitOn_lineFeed_of_mem {bytes : List UInt8} (present : lineFeed ∈ bytes) :
    bytes.splitOn lineFeed =
      bytes.takeWhile (· ≠ lineFeed) :: (afterFirstLine bytes).splitOn lineFeed := by
  have whole := List.takeWhile_append_dropWhile (p := (· ≠ lineFeed)) (l := bytes)
  have absent := lineFeed_notMem_takeWhile bytes
  rcases dropWhile_lineFeed_cases bytes with nothing | feed
  · rw [nothing, List.append_nil] at whole
    rw [whole] at absent
    exact absurd present absent
  · rw [feed] at whole
    calc
      bytes.splitOn lineFeed =
          (bytes.takeWhile (· ≠ lineFeed) ++ lineFeed :: afterFirstLine bytes).splitOn lineFeed := by rw [whole]
      _ = _ := List.splitOn_append_cons_self_of_not_mem absent _

theorem linesOfBytes_of_mem {bytes : List UInt8} (fault : Option SystemFault) (present : lineFeed ∈ bytes) :
    linesOfBytes bytes fault = firstLine bytes :: linesOfBytes (afterFirstLine bytes) fault := by
  have inner : (afterFirstLine bytes).splitOn lineFeed ≠ [] := List.splitOn_ne_nil _ _
  simp only [linesOfBytes, completePieces, splitOn_lineFeed_of_mem present,
    List.getLast?_cons_of_ne_nil inner, List.dropLast_cons_of_ne_nil inner]
  split <;> rfl

theorem linesOfBytes_of_not_mem {bytes : List UInt8} (fault : Option SystemFault)
    (absent : lineFeed ∉ bytes) :
    linesOfBytes bytes fault = if fault.isSome ∨ bytes = [] then [] else [trimReturn bytes] := by
  simp only [linesOfBytes, completePieces, List.splitOn_eq_singleton absent, List.getLast?_singleton,
    Option.some.injEq, List.dropLast_singleton]
  split <;> rfl

theorem linesOfBytes_nil (fault : Option SystemFault) : linesOfBytes [] fault = [] := by
  rw [linesOfBytes_of_not_mem fault List.not_mem_nil, if_pos (Or.inr rfl)]

/-! ## The lines and events of files -/

/-- Lines of a file, so many lines of which come before them. -/
def numberedFrom (path : Path) (before : Nat) (lines : List (List UInt8)) : List SourceLine :=
  lines.mapIdx fun index bytes => ⟨path, before + index + 1, bytes⟩

theorem numberedFrom_cons (path : Path) (before : Nat) (line : List UInt8) (lines : List (List UInt8)) :
    numberedFrom path before (line :: lines) =
      ⟨path, before + 1, line⟩ :: numberedFrom path (before + 1) lines := by
  simp only [numberedFrom, List.mapIdx_cons, Nat.add_right_comm before 1, Nat.add_assoc]

/-- The lines that a file has to give. One that cannot be opened has none. -/
def linesOfFile (file : SourceFile) : List SourceLine :=
  match file.content with
  | .closed _ => []
  | .readable bytes fault => numberedFrom file.path 0 (linesOfBytes bytes fault)

def linesOfFiles (files : List SourceFile) : List SourceLine :=
  files.flatMap linesOfFile

def SourceLine.event? (line : SourceLine) : Option Event :=
  match Line.classify line.bytes with
  | .event event => some event
  | .blank => none
  | .malformed _ => none

def eventsOf (lines : List SourceLine) : List Event :=
  lines.filterMap SourceLine.event?

theorem eventsOf_append (lines more : List SourceLine) :
    eventsOf (lines ++ more) = eventsOf lines ++ eventsOf more :=
  List.filterMap_append

theorem eventsOf_singleton (line : SourceLine) : eventsOf [line] = line.event?.toList := by
  cases spelled : line.event? <;> simp [eventsOf, spelled]

/-! ## What a read finds -/

theorem firstLine_of_not_mem {bytes : List UInt8} (absent : lineFeed ∉ bytes) :
    firstLine bytes = trimReturn bytes := by
  have all : bytes.takeWhile (· ≠ lineFeed) = bytes :=
    List.takeWhile_eq_self_iff.2 fun b inside => by
      simpa using fun same : b = lineFeed => absent (same ▸ inside)
  rw [firstLine, all]

theorem afterFirstLine_of_not_mem {bytes : List UInt8} (absent : lineFeed ∉ bytes) :
    afterFirstLine bytes = [] := by
  have none : bytes.dropWhile (· ≠ lineFeed) = [] :=
    List.dropWhile_eq_nil_iff.2 fun b inside => by
      simpa using fun same : b = lineFeed => absent (same ▸ inside)
  rw [afterFirstLine, none]
  rfl

theorem afterFirstLine_shorter {bytes : List UInt8} (nonempty : bytes ≠ []) :
    (afterFirstLine bytes).length < bytes.length := by
  have positive := List.length_pos_iff.2 nonempty
  have shrunk := (List.dropWhile_sublist (· ≠ lineFeed) (l := bytes)).length_le
  rw [afterFirstLine, List.length_drop]
  omega

namespace OpenFile

/-- What a file that is being read still has to hand over. -/
def toCome (file : OpenFile) : List SourceLine :=
  numberedFrom file.path file.lines (linesOfBytes file.rest file.fault)

def after (file : OpenFile) (line rest : List UInt8) : OpenFile :=
  { file with rest := rest, lines := file.lines + 1, bytes := file.bytes + (line.length + 1) }

theorem read_line {file : OpenFile} {line rest : List UInt8} (found : file.read = .line line rest) :
    rest.length < file.rest.length ∧
      linesOfBytes file.rest file.fault = line :: linesOfBytes rest file.fault := by
  unfold read at found
  split at found
  · rename_i whole
    split at found
    · cases found
    · rename_i nonempty
      cases found
      refine ⟨afterFirstLine_shorter nonempty, ?_⟩
      by_cases present : lineFeed ∈ file.rest
      · exact linesOfBytes_of_mem _ present
      · simp [linesOfBytes_of_not_mem _ present, firstLine_of_not_mem present,
          afterFirstLine_of_not_mem present, nonempty, whole, linesOfBytes_nil]
  · rename_i fault broken
    split at found
    · rename_i contained
      have present : lineFeed ∈ file.rest := by simpa using contained
      cases found
      exact ⟨afterFirstLine_shorter (List.ne_nil_of_mem present), linesOfBytes_of_mem _ present⟩
    · cases found

theorem read_endOfFile {file : OpenFile} (found : file.read = .endOfFile) :
    linesOfBytes file.rest file.fault = [] := by
  unfold read at found
  split at found
  · split at found
    · rename_i none empty
      rw [empty, linesOfBytes_nil]
    · cases found
  · split at found <;> cases found

theorem read_fault {file : OpenFile} {fault : SystemFault} (found : file.read = .fault fault) :
    linesOfBytes file.rest file.fault = [] := by
  unfold read at found
  split at found
  · split at found <;> cases found
  · rename_i broken
    split at found
    · cases found
    · rename_i absent
      rw [linesOfBytes_of_not_mem _ (by simpa using absent), broken]
      rfl

theorem toCome_of_line {file : OpenFile} {line rest : List UInt8} (found : file.read = .line line rest) :
    file.toCome = ⟨file.path, file.lines + 1, line⟩ :: (file.after line rest).toCome := by
  rw [toCome, (read_line found).2, numberedFrom_cons]
  rfl

end OpenFile

def Reader.toCome (reader : Reader) : List SourceLine :=
  match reader.place with
  | .betweenFiles => linesOfFiles reader.waiting
  | .looking file => file.toCome ++ linesOfFiles reader.waiting
  | .reading file => file.toCome ++ linesOfFiles reader.waiting
  | .finished => []

end EventFeed.Flow
