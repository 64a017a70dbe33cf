import EventFeed.Proofs.Flow.LineBreaks
import EventFeed.Proofs.Flow.Recital

/-!
# One file among others

Between the moment before a file and the moment behind it the listener is handed the lines of that file, and the
figures grow by them, whatever came before and whatever is to come.
-/

namespace EventFeed.Flow

theorem length_numberedFrom (path : Path) (before : Nat) (lines : List (List UInt8)) :
    (numberedFrom path before lines).length = lines.length :=
  List.length_mapIdx

theorem weightOf_numberedFrom (path : Path) (before : Nat) (lines : List (List UInt8)) :
    weightOf (numberedFrom path before lines) = weight lines := by
  induction lines generalizing before with
  | nil => rfl
  | cons line lines ih =>
      rw [numberedFrom_cons]
      exact congrArg (line.length + 1 + ·) (ih (before + 1))

/-- A reader that has a file in hand goes on in it, or is done with it. -/
theorem Reader.Moves.inHand {reader next : Reader} {shared after : Shared} {handed : Option SourceLine}
    {file : OpenFile} (moves : reader.Moves shared next after handed) (held : reader.inHand = some file) :
    next.waiting = reader.waiting ∧ (next.place = .betweenFiles ∨ ∃ file, next.inHand = some file) := by
  cases moves with
  | ended between => simp only [Reader.inHand, between, reduceCtorEq] at held
  | passedOver between => simp only [Reader.inHand, between, reduceCtorEq] at held
  | opened between => simp only [Reader.inHand, between, reduceCtorEq] at held
  | looked => exact ⟨rfl, .inr ⟨_, rfl⟩⟩
  | handedOver => exact ⟨rfl, .inr ⟨_, rfl⟩⟩
  | finished => exact ⟨rfl, .inl rfl⟩
  | failed => exact ⟨rfl, .inl rfl⟩

namespace Recital

variable {files rest : List SourceFile} {recital next behind : Recital} {file : SourceFile}

/-- The reader is about to open the first of some files. -/
structure Before (files : List SourceFile) (recital : Recital) : Prop where
  between : recital.reader.place = .betweenFiles
  waiting : recital.reader.waiting = files

theorem Moves.inHand {held : OpenFile} (moves : recital.Moves next) (inHand : recital.reader.inHand = some held) :
    next.Before recital.reader.waiting ∨
      next.reader.waiting = recital.reader.waiting ∧ ∃ held, next.reader.inHand = some held := by
  cases moves with
  | came => exact .inr ⟨rfl, held, inHand⟩
  | tookTicket => exact .inr ⟨rfl, held, inHand⟩
  | foundShut => exact .inr ⟨rfl, held, inHand⟩
  | foundOpen => exact .inr ⟨rfl, _, rfl⟩
  | read free away moved =>
      obtain ⟨waiting, done | going⟩ := moved.inHand inHand
      · exact .inl ⟨done, waiting⟩
      · exact .inr ⟨waiting, going⟩
  | handedOver => exact .inr ⟨rfl, held, inHand⟩
  | returned => exact .inr ⟨rfl, held, inHand⟩

/-- A reader that is let go on comes to the end of the file that it has in hand. -/
theorem Orderly.exists_behind {held : OpenFile} (orderly : recital.Orderly files) (admits : recital.Admits)
    (inHand : recital.reader.inHand = some held) :
    ∃ count, (recital.play (List.replicate count .own)).Before recital.reader.waiting := by
  induction left : recital.work using Nat.strong_induction_on generalizing recital held with
  | _ left ih =>
      subst left
      have unfinished : ¬recital.Finished := by
        intro finished
        rw [Finished] at finished
        simp only [Reader.inHand, finished, reduceCtorEq] at inHand
      obtain ⟨next, moved⟩ := orderly.exists_advance admits unfinished
      have moves := moves_of_advance orderly.placed moved
      rcases moves.inHand inHand with behind | ⟨waiting, held, going⟩
      · exact ⟨1, by rw [play_own moved]; exact behind⟩
      · obtain ⟨less, stillOpen⟩ := orderly.work_lt admits moves
        obtain ⟨count, behind⟩ := ih _ less (orderly.step moves) stillOpen going rfl
        rw [waiting] at behind
        exact ⟨count + 1, by rw [play_own moved]; exact behind⟩

/-- A reader that is let go on opens a file that it can open. -/
theorem Before.exists_behind {path : Path} {bytes : List UInt8} {fault : Option SystemFault}
    (before : recital.Before (⟨path, .readable bytes fault⟩ :: rest)) (orderly : recital.Orderly files)
    (admits : recital.Admits) : ∃ count, (recital.play (List.replicate count .own)).Before rest := by
  obtain ⟨between, waiting⟩ := before
  have free := orderly.free_of_away fun file looking => by
    rw [between] at looking
    cases looking
  have opened : recital.advance = some
      { recital with
        reader := { recital.reader with waiting := rest, place := .looking ⟨path, bytes, fault, 0, 0⟩ }
        stage := .free } := by
    simp only [advance, free, between, read, Reader.step, Reader.nextFile, waiting, Option.map_some,
      Stage.ofHanded]
  have moves := moves_of_advance orderly.placed opened
  obtain ⟨_, stillOpen⟩ := orderly.work_lt admits moves
  obtain ⟨count, behind⟩ := (orderly.step moves).exists_behind stillOpen rfl
  exact ⟨count + 1, by rw [play_own opened]; exact behind⟩

/-- Before some files everything is in the books that was handed over, and the rest is theirs. -/
theorem Before.books (before : recital.Before rest) (orderly : recital.Orderly files) :
    recital.heard ++ linesOfFiles rest = linesOfFiles files ∧
      recital.reader.stats.linesRead + UInt64.ofNat (linesOfFiles rest).length =
        UInt64.ofNat (linesOfFiles files).length ∧
      recital.reader.stats.bytesRead + UInt64.ofNat (weightOf (linesOfFiles rest)) =
        UInt64.ofNat (weightOf (linesOfFiles files)) ∧
      recital.shared.progress.linesRead = recital.reader.stats.linesRead ∧
      recital.shared.progress.bytesRead = recital.reader.stats.bytesRead := by
  obtain ⟨between, waiting⟩ := before
  have free := orderly.free_of_away fun file looking => by
    rw [between] at looking
    cases looking
  have nothing : recital.reader.inHand = none := by simp only [Reader.inHand, between]
  have ahead : recital.reader.toCome = linesOfFiles rest := by simp only [Reader.toCome, between, waiting]
  have none_given (figure : UInt64) : figure + UInt64.ofNat 0 = figure := UInt64.add_zero figure
  have whole := orderly.whole
  have booked := orderly.honest.booked
  have prospect_eq := orderly.honest.prospect_eq
  have lines_eq := booked.lines_eq
  have bytes_eq := booked.bytes_eq
  rw [Reader.prospect, statsOfFiles, SourceStats.mk.injEq, nothing, ahead, givenBy, none_given,
    none_given] at prospect_eq
  rw [nothing, givenBy, none_given] at lines_eq bytes_eq
  rw [free, Stage.carried, List.append_nil, ahead] at whole
  exact ⟨whole, prospect_eq.2.2.1, prospect_eq.2.2.2, lines_eq, bytes_eq⟩

/-- What lies between the moment before a file and the moment behind it. -/
theorem Before.handed (before : recital.Before (file :: rest)) (orderly : recital.Orderly files)
    (after : behind.Before rest) (orderlyAfter : behind.Orderly files) :
    behind.heard = recital.heard ++ linesOfFile file ∧
      behind.reader.stats.linesRead =
        recital.reader.stats.linesRead + UInt64.ofNat (linesOfFile file).length ∧
      behind.reader.stats.bytesRead =
        recital.reader.stats.bytesRead + UInt64.ofNat (weightOf (linesOfFile file)) := by
  obtain ⟨heard, lines_eq, bytes_eq, _⟩ := before.books orderly
  obtain ⟨heardAfter, linesAfter, bytesAfter, _⟩ := after.books orderlyAfter
  have split : linesOfFiles (file :: rest) = linesOfFile file ++ linesOfFiles rest := List.flatMap_cons
  rw [split] at heard lines_eq bytes_eq
  rw [List.length_append, UInt64.ofNat_add, ← UInt64.add_assoc, ← linesAfter] at lines_eq
  rw [weightOf_append, UInt64.ofNat_add, ← UInt64.add_assoc, ← bytesAfter] at bytes_eq
  rw [← List.append_assoc, ← heardAfter] at heard
  exact ⟨(List.append_cancel_right heard).symm, ((UInt64.add_left_inj _).1 lines_eq).symm,
    ((UInt64.add_left_inj _).1 bytes_eq).symm⟩

/-- A reader that is let go on before a file that it can read comes to the end of it. Whenever it has done so, and
whatever happened at the gate, the listener was handed the pieces of the file between its line feeds, each without
one carriage return at its end and with no line feed in it, numbered from one on; the figures have grown by as many
lines and by the bytes that they count for. These are the bytes of the file without the carriage returns that were
taken off, and one more if the last line is not ended. Lines that were written with either ending are the lines
that are handed over. -/
theorem file_line_by_line (marks : Watermarks) (files : List SourceFile) (turns : List Turn) {path : Path}
    {bytes : List UInt8} (before : ((start marks files).play turns).Before (⟨path, .readable bytes none⟩ :: rest)) :
    let recital := (start marks files).play turns
    let pieces := completePieces bytes none
    let lines := pieces.map trimReturn
    (recital.Admits → ∃ count, (recital.play (List.replicate count .own)).Before rest) ∧
      (∀ more, (recital.play more).Before rest →
        let behind := recital.play more
        behind.heard = recital.heard ++ lines.mapIdx (fun index line => ⟨path, index + 1, line⟩) ∧
          behind.reader.stats.linesRead = recital.reader.stats.linesRead + UInt64.ofNat lines.length ∧
          behind.reader.stats.bytesRead = recital.reader.stats.bytesRead + UInt64.ofNat (weight lines) ∧
          behind.shared.progress.linesRead = behind.reader.stats.linesRead ∧
          behind.shared.progress.bytesRead = behind.reader.stats.bytesRead) ∧
      (∀ line ∈ lines, lineFeed ∉ line) ∧
      weight lines + pieces.countP (EndsInReturn ·) =
        bytes.length + (if bytes = [] ∨ bytes.getLast? = some lineFeed then 0 else 1) ∧
      ∀ ended last, (∀ line ∈ last, Portable line ∧ line ≠ []) → bytes = written ended last →
        lines = ended.map EndedLine.bytes ++ last.toList := by
  intro recital pieces lines
  have orderly : recital.Orderly files := (orderly_start marks files).play turns
  refine ⟨before.exists_behind orderly, fun more after => ?_, fun line => lineFeed_notMem_of_mem,
    weight_linesOfBytes bytes, ?_⟩
  · have orderlyAfter := orderly.play more
    have own : linesOfFile ⟨path, .readable bytes none⟩ = numberedFrom path 0 lines := rfl
    obtain ⟨heard, lines_eq, bytes_eq⟩ := before.handed orderly after orderlyAfter
    obtain ⟨_, _, _, books⟩ := after.books orderlyAfter
    rw [own] at heard lines_eq bytes_eq
    rw [length_numberedFrom] at lines_eq
    rw [weightOf_numberedFrom] at bytes_eq
    have numbered : numberedFrom path 0 lines = lines.mapIdx fun index line => ⟨path, index + 1, line⟩ := by
      simp only [numberedFrom, Nat.zero_add]
    rw [numbered] at heard
    exact ⟨heard, lines_eq, bytes_eq, books⟩
  · rintro ended last portable rfl
    exact linesOfBytes_written ended portable

/-- A file with both endings and a last line without one, behind a file that cannot be opened. -/
def mixedFiles : List SourceFile :=
  [⟨Path.ofString "logs/a", .closed .permissionDenied⟩,
    ⟨Path.ofString "logs/b", .readable (Utf8.ofString "x\r\n\nyz") none⟩]

theorem file_line_by_line_mixedFiles :
    let recital := (start ⟨2, 1⟩ mixedFiles).play [.own]
    let path := Path.ofString "logs/b"
    let lines := [[0x78], [], [0x79, 0x7A]]
    recital.Before [⟨path, .readable (Utf8.ofString "x\r\n\nyz") none⟩] ∧
      linesOfBytes (Utf8.ofString "x\r\n\nyz") none = lines ∧
      ∃ count,
        let behind := recital.play (List.replicate count .own)
        behind.Before [] ∧ behind.heard = [⟨path, 1, [0x78]⟩, ⟨path, 2, []⟩, ⟨path, 3, [0x79, 0x7A]⟩] ∧
          behind.reader.stats.linesRead = 3 ∧ behind.reader.stats.bytesRead = 6 := by
  intro recital path lines
  have before : recital.Before [⟨path, .readable (Utf8.ofString "x\r\n\nyz") none⟩] := ⟨rfl, rfl⟩
  obtain ⟨onward, passed, _, _, back⟩ := file_line_by_line ⟨2, 1⟩ mixedFiles [.own] before
  have readBack := back [⟨[0x78], [carriageReturn, lineFeed], by decide, .returnFeed⟩,
    ⟨[], [lineFeed], by decide, .feed⟩] (some [0x79, 0x7A]) (by decide) (by decide +kernel)
  obtain ⟨count, behind⟩ := onward ⟨rfl, rfl⟩
  obtain ⟨heard, lines_eq, bytes_eq, _⟩ := passed _ behind
  rw [readBack] at heard lines_eq bytes_eq
  exact ⟨before, readBack, count, behind, heard, lines_eq, bytes_eq⟩

end Recital

end EventFeed.Flow
