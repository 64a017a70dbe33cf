import EventFeed.Proofs.Flow.Ledgers

/-!
# What a reader will have read

The figures that a reader reports at its end are settled by its files before it has read anything. A reader on
its way has a part of them in its own figures, a part in the file in hand and a part before it; no move changes
what they add up to.
-/

namespace EventFeed

/-- The file can be opened and read to its end. -/
def SourceFile.isSound (file : SourceFile) : Bool :=
  match file.content with
  | .closed _ => false
  | .readable _ fault => fault.isNone

end EventFeed

namespace EventFeed.Flow

/-- How many bytes some lines count for, a terminator each included. -/
def weight : List (List UInt8) → Nat
  | [] => 0
  | line :: lines => line.length + 1 + weight lines

theorem weight_append (lines more : List (List UInt8)) : weight (lines ++ more) = weight lines + weight more := by
  induction lines with
  | nil => exact (Nat.zero_add _).symm
  | cons line lines ih => rw [List.cons_append, weight, weight, ih, ← Nat.add_assoc]

def weightOf (lines : List SourceLine) : Nat :=
  weight (lines.map SourceLine.bytes)

theorem weightOf_append (lines more : List SourceLine) : weightOf (lines ++ more) = weightOf lines + weightOf more := by
  rw [weightOf, List.map_append, weight_append]
  rfl

def statsOfFiles (files : List SourceFile) : SourceStats where
  filesProcessed := files.countP fun file => file.isSound
  filesFailed := files.countP fun file => !file.isSound
  linesRead := UInt64.ofNat (linesOfFiles files).length
  bytesRead := UInt64.ofNat (weightOf (linesOfFiles files))

namespace OpenFile

theorem fault_of_endOfFile {file : OpenFile} (found : file.read = .endOfFile) : file.fault = none := by
  unfold read at found
  split at found
  · assumption
  · split at found <;> cases found

theorem fault_of_fault {file : OpenFile} {fault : SystemFault} (found : file.read = .fault fault) :
    file.fault = some fault := by
  unfold read at found
  split at found
  · split at found <;> cases found
  · rename_i broken
    split at found
    · cases found
    · cases found
      exact broken

end OpenFile

namespace Reader

/-- The figures that a reader comes to: those that it has, those of the file in hand, and those of what is before
it. -/
def prospect (reader : Reader) : SourceStats where
  filesProcessed := reader.stats.filesProcessed + (reader.inHand.toList.countP fun file => file.fault.isNone) +
    reader.waiting.countP fun file => file.isSound
  filesFailed := reader.stats.filesFailed + (reader.inHand.toList.countP fun file => !file.fault.isNone) +
    reader.waiting.countP fun file => !file.isSound
  linesRead := reader.stats.linesRead + UInt64.ofNat (givenBy reader.inHand).1 +
    UInt64.ofNat reader.toCome.length
  bytesRead := reader.stats.bytesRead + UInt64.ofNat (givenBy reader.inHand).2 +
    UInt64.ofNat (weightOf reader.toCome)

theorem prospect_start (files : List SourceFile) : (Reader.start files).prospect = statsOfFiles files := by
  simp [prospect, start, inHand, givenBy, toCome, statsOfFiles]

/-- A reader with nothing in hand and nothing before it has come to its figures. -/
theorem prospect_eq_stats {reader : Reader} (nothing : reader.inHand = none) (last : reader.waiting = [])
    (done : reader.toCome = []) : reader.prospect = reader.stats := by
  simp [prospect, nothing, last, done, givenBy, weightOf, weight]

/-- No move changes the figures that a reader comes to. -/
theorem Moves.prospect {reader next : Reader} {shared after : Shared} {handed : Option SourceLine}
    (moves : reader.Moves shared next after handed) : next.prospect = reader.prospect := by
  have ahead := moves.toCome
  cases moves with
  | ended between last =>
      rw [Option.toList_none, List.nil_append] at ahead
      simp [Reader.prospect, inHand, between, ahead]
  | @passedOver file rest fault between waiting content =>
      have unsound : file.isSound = false := by simp [SourceFile.isSound, content]
      rw [Option.toList_none, List.nil_append] at ahead
      simp only [Reader.prospect, giveUp, inHand, between, waiting, ahead, List.countP_cons, unsound,
        Bool.not_false, Bool.false_eq_true, if_true, if_false, SourceStats.mk.injEq, and_true]
      omega
  | @opened file rest bytes fault between waiting content =>
      have sound : file.isSound = fault.isNone := by simp [SourceFile.isSound, content]
      rw [Option.toList_none, List.nil_append] at ahead
      simp only [Reader.prospect, inHand, between, waiting, ahead, givenBy, Option.toList_none, Option.toList_some,
        List.countP_cons, List.countP_nil, sound, UInt64.reduceOfNat, UInt64.add_zero, SourceStats.mk.injEq,
        and_true]
      omega
  | looked before =>
      rw [Option.toList_none, List.nil_append] at ahead
      simp [Reader.prospect, inHand, before, ahead]
  | @handedOver file line rest before found =>
      rw [Option.toList_some, List.singleton_append] at ahead
      simp only [Reader.prospect, inHand, before, givenBy, ahead, OpenFile.after, weightOf, weight, List.map_cons,
        List.length_cons, Option.toList_some, UInt64.ofNat_add, SourceStats.mk.injEq]
      refine ⟨rfl, rfl, ?_, ?_⟩
      · ac_rfl
      · ac_rfl
  | @finished file before found =>
      rw [Option.toList_none, List.nil_append] at ahead
      simp [Reader.prospect, inHand, before, givenBy, ahead, OpenFile.fault_of_endOfFile found, finish, close,
        SourceStats.close]
  | @failed file fault before found =>
      rw [Option.toList_none, List.nil_append] at ahead
      simp [Reader.prospect, inHand, before, givenBy, ahead, OpenFile.fault_of_fault found, giveUp, close,
        SourceStats.close]

end Reader

end EventFeed.Flow
