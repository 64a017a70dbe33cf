import EventFeed.Files.Source
import EventFeed.Flow.Shared

/-!
# The reader

The reader goes through its files in order and hands over one line after the other. Before every read,
also the one that finds the end of a file, it looks whether it is paused; the look and the read are steps
of their own. A file that cannot be opened, or read to its end, is given up where it fails: a line cut
short by the fault is neither handed over nor counted.
-/

namespace EventFeed.Flow

def lineFeed : UInt8 := 0x0A

def carriageReturn : UInt8 := 0x0D

/-- A line without one carriage return at its end. -/
def trimReturn (line : List UInt8) : List UInt8 :=
  if line.getLast? = some carriageReturn then line.dropLast else line

def firstLine (bytes : List UInt8) : List UInt8 :=
  trimReturn (bytes.takeWhile (· ≠ lineFeed))

def afterFirstLine (bytes : List UInt8) : List UInt8 :=
  (bytes.dropWhile (· ≠ lineFeed)).drop 1

structure SourceLine where
  path : Path
  /-- Counted from one in every file. -/
  number : Nat
  bytes : List UInt8
  deriving DecidableEq, Repr

structure SourceStats where
  filesProcessed : Nat
  filesFailed : Nat
  linesRead : UInt64
  bytesRead : UInt64
  deriving DecidableEq, Repr

structure OpenFile where
  path : Path
  rest : List UInt8
  fault : Option SystemFault
  /-- How many lines were handed over. -/
  lines : Nat
  /-- How many bytes they had, a terminator each included. -/
  bytes : Nat
  deriving DecidableEq, Repr

inductive Reader.Place where
  | betweenFiles
  /-- About to look whether it is paused. -/
  | looking (file : OpenFile)
  /-- About to read. -/
  | reading (file : OpenFile)
  | finished
  deriving DecidableEq, Repr

structure Reader where
  waiting : List SourceFile
  place : Reader.Place
  stats : SourceStats
  deriving DecidableEq, Repr

inductive ReadResult where
  | line (bytes : List UInt8) (rest : List UInt8)
  | endOfFile
  | fault (fault : SystemFault)
  deriving DecidableEq, Repr

def OpenFile.read (file : OpenFile) : ReadResult :=
  match file.fault with
  | none =>
      if file.rest = [] then .endOfFile else .line (firstLine file.rest) (afterFirstLine file.rest)
  | some fault =>
      if file.rest.contains lineFeed then .line (firstLine file.rest) (afterFirstLine file.rest)
      else .fault fault

def SourceStats.close (stats : SourceStats) (file : OpenFile) : SourceStats :=
  { stats with
    linesRead := stats.linesRead + UInt64.ofNat file.lines
    bytesRead := stats.bytesRead + UInt64.ofNat file.bytes }

namespace Reader

def start (files : List SourceFile) : Reader :=
  ⟨files, .betweenFiles, ⟨0, 0, 0, 0⟩⟩

/-- The counters after a file was closed. -/
def countFile (shared : Shared) (file : OpenFile) : Shared :=
  (shared.count Series.linesRead file.lines).count Series.bytesRead file.bytes

def giveUp (reader : Reader) (shared : Shared) (path : Path) (fault : SystemFault) : Reader × Shared :=
  ({ reader with
      place := .betweenFiles
      stats := { reader.stats with filesFailed := reader.stats.filesFailed + 1 } },
    (shared.count Series.filesFailed 1).tell (.fileSkipped path fault))

def finish (reader : Reader) (shared : Shared) (file : OpenFile) : Reader × Shared :=
  ({ reader with
      place := .betweenFiles
      stats := { reader.stats with filesProcessed := reader.stats.filesProcessed + 1 } },
    (shared.count Series.filesRead 1).tell (.fileFinished file.path file.lines))

def close (reader : Reader) (file : OpenFile) : Reader :=
  { reader with stats := SourceStats.close reader.stats file }

def nextFile (reader : Reader) (shared : Shared) : Reader × Shared :=
  match reader.waiting with
  | [] =>
      ({ reader with place := .finished },
        if shared.exhausted then shared else shared.markExhausted.tell .exhausted)
  | file :: rest =>
      match file.content with
      | .closed fault => giveUp { reader with waiting := rest } shared file.path fault
      | .readable bytes fault =>
          ({ reader with waiting := rest, place := .looking ⟨file.path, bytes, fault, 0, 0⟩ }, shared)

/-- One read, which may hand over a line. -/
def readOn (reader : Reader) (shared : Shared) (file : OpenFile) : Reader × Shared × Option SourceLine :=
  match file.read with
  | .line line rest =>
      let file : OpenFile :=
        { file with rest := rest, lines := file.lines + 1, bytes := file.bytes + (line.length + 1) }
      ({ reader with place := .looking file }, shared.recordLine line.length,
        some ⟨file.path, file.lines, line⟩)
  | .endOfFile =>
      let (reader, shared) := (reader.close file).finish (countFile shared file) file
      (reader, shared, none)
  | .fault fault =>
      let (reader, shared) := (reader.close file).giveUp (countFile shared file) file.path fault
      (reader, shared, none)

/-- One step of the reader; none when it is paused or has finished. -/
def step (reader : Reader) (shared : Shared) : Option (Reader × Shared × Option SourceLine) :=
  match reader.place with
  | .betweenFiles =>
      let (reader, shared) := reader.nextFile shared
      some (reader, shared, none)
  | .looking file =>
      if shared.paused then none else some ({ reader with place := .reading file }, shared, none)
  | .reading file => some (reader.readOn shared file)
  | .finished => none

/-- How many steps a reader has before it at most. -/
def work (reader : Reader) : Nat :=
  let ahead := (reader.waiting.map fun file =>
    match file.content with
    | .closed _ => 1
    | .readable bytes _ => 2 * bytes.length + 3).foldr (· + ·) 0
  match reader.place with
  | .betweenFiles => ahead + 1
  | .looking file => 2 * file.rest.length + 2 + ahead + 1
  | .reading file => 2 * file.rest.length + 1 + ahead + 1
  | .finished => 0

end Reader

end EventFeed.Flow
