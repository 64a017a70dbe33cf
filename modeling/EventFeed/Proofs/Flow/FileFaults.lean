import EventFeed.Proofs.Flow.LineBreaks
import EventFeed.Proofs.Flow.Recital

/-!
# Files that fail

A file may not open, or break off behind any of its bytes. What a reader hands over of its files is, file after
file, what it hands over of each file alone; a file that breaks off is handed over as if it ended at its last line
feed, and one that does not open as if it were not there.
-/

namespace EventFeed.Flow

theorem linesOfFiles_append (files others : List SourceFile) :
    linesOfFiles (files ++ others) = linesOfFiles files ++ linesOfFiles others :=
  List.flatMap_append

/-- One of several files has its own lines between those of the others. -/
theorem linesOfFiles_between (before : List SourceFile) (file : SourceFile) (after : List SourceFile) :
    linesOfFiles (before ++ file :: after) = linesOfFiles before ++ linesOfFiles [file] ++ linesOfFiles after := by
  rw [← linesOfFiles_append, ← linesOfFiles_append, List.append_assoc]
  rfl

theorem linesOfFiles_of_closed (path : Path) (fault : SystemFault) :
    linesOfFiles [⟨path, .closed fault⟩] = [] :=
  rfl

theorem linesOfFiles_of_fault {pieces : List (List UInt8)} {cut : List UInt8}
    (clear : ∀ piece ∈ pieces, lineFeed ∉ piece) (absent : lineFeed ∉ cut) (path : Path) (fault : SystemFault) :
    linesOfFiles [⟨path, .readable (brokenText pieces cut) (some fault)⟩] =
      linesOfFiles [⟨path, .readable (brokenText pieces []) none⟩] := by
  simp only [linesOfFiles, List.flatMap_cons, List.flatMap_nil, linesOfFile, linesOfBytes_of_fault clear absent]

namespace Recital

variable {files : List SourceFile} {recital : Recital} {lines : List SourceLine}

/-- A recital of some files that has come to its end has handed these lines over. -/
def Recites (files : List SourceFile) (lines : List SourceLine) : Prop :=
  ∃ marks turns,
    let recital := (start marks files).play turns
    recital.Finished ∧ recital.heard = lines

/-- All recitals of some files hand the same lines over, and one of them comes to its end. -/
theorem recites_iff : Recites files lines ↔ lines = linesOfFiles files := by
  constructor
  · rintro ⟨marks, turns, finished, rfl⟩
    exact (((orderly_start marks files).play turns).of_finished finished).1
  · rintro rfl
    have fresh := orderly_start ⟨1, 0⟩ files
    obtain ⟨count, finished⟩ := fresh.exists_finished ⟨rfl, rfl⟩
    exact ⟨⟨1, 0⟩, List.replicate count .own, finished, ((fresh.play _).of_finished finished).1⟩

/-- What is marked as read is read: there is no file left, and each was read or given up. -/
theorem Orderly.of_exhausted (orderly : recital.Orderly files) (marked : recital.shared.exhausted = true) :
    recital.Finished ∧ recital.reader.waiting = [] ∧
      recital.reader.stats.filesProcessed + recital.reader.stats.filesFailed = files.length := by
  have ended := orderly.honest.ended.1 marked
  have booked := orderly.honest.booked
  have last := booked.last ended
  have files_eq := booked.files_eq
  obtain ⟨nothing, _⟩ := booked.finished ended
  rw [nothing, last, Option.toList_none, List.length_nil] at files_eq
  exact ⟨ended, last, files_eq⟩

/-- A recital of any files, whichever of them fail, can come to its end. Wherever it is, the counts of the run are
those of the lines that were handed over or are on their way. When it is at its end, it has handed over the lines
of the files in their order; the files that were processed are those without a fault, and the files that failed the
others; lines and bytes are those that were handed over, in the figures as in the counts of the run. What it has
handed over of one file is what a recital of that file alone hands over. A file that breaks off is as good as one
that ends at its last line feed, and one that does not open is as good as none. What is marked as read is read to
the last file. -/
theorem failures_stay_apart (marks : Watermarks) (files : List SourceFile) :
    (∃ turns, ((start marks files).play turns).Finished) ∧
      ∀ turns,
        let recital := (start marks files).play turns
        let stats := recital.reader.stats
        let progress := recital.shared.progress
        (progress.linesRead = UInt64.ofNat (recital.heard ++ recital.stage.carried).length ∧
            progress.bytesRead = UInt64.ofNat (weightOf (recital.heard ++ recital.stage.carried))) ∧
          (recital.Finished →
            (recital.heard = linesOfFiles files ∧
                stats.filesProcessed = files.countP (fun file => file.isSound) ∧
                stats.filesFailed = files.countP (fun file => !file.isSound) ∧
                stats.linesRead = UInt64.ofNat recital.heard.length ∧
                stats.bytesRead = UInt64.ofNat (weightOf recital.heard) ∧
                progress.linesRead = stats.linesRead ∧ progress.bytesRead = stats.bytesRead) ∧
              (∀ before file after first own last, files = before ++ file :: after →
                Recites before first → Recites [file] own → Recites after last →
                  recital.heard = first ++ own ++ last) ∧
              (∀ before path pieces cut fault after, (∀ piece ∈ pieces, lineFeed ∉ piece) → lineFeed ∉ cut →
                files = before ++ ⟨path, .readable (brokenText pieces cut) (some fault)⟩ :: after →
                  Recites (before ++ ⟨path, .readable (brokenText pieces []) none⟩ :: after) recital.heard) ∧
              ∀ before path fault after, files = before ++ ⟨path, .closed fault⟩ :: after →
                Recites (before ++ after) recital.heard) ∧
          (recital.shared.exhausted = true →
            recital.Finished ∧ recital.reader.waiting = [] ∧
              stats.filesProcessed + stats.filesFailed = files.length) := by
  have fresh := orderly_start marks files
  obtain ⟨count, ended⟩ := fresh.exists_finished ⟨rfl, rfl⟩
  refine ⟨⟨List.replicate count .own, ended⟩, fun turns => ?_⟩
  intro recital stats progress
  have orderly : recital.Orderly files := fresh.play turns
  refine ⟨orderly.progress_eq, fun finished => ?_, orderly.of_exhausted⟩
  obtain ⟨heard, stats_eq⟩ := orderly.of_finished finished
  refine ⟨⟨heard, ?_⟩, ?_, ?_, ?_⟩
  · have free := orderly.free_of_away fun file looking => by cases finished.symm.trans looking
    have counted := orderly.progress_eq
    rw [free, Stage.carried, List.append_nil] at counted
    rw [show stats = statsOfFiles files from stats_eq, statsOfFiles, ← heard]
    exact ⟨rfl, rfl, rfl, rfl, counted⟩
  · intro before file after first own last split firstHeard ownHeard lastHeard
    rw [heard, split, linesOfFiles_between, recites_iff.1 firstHeard, recites_iff.1 ownHeard,
      recites_iff.1 lastHeard]
  · intro before path pieces cut fault after clear absent split
    rw [recites_iff, heard, split, linesOfFiles_between, linesOfFiles_between, linesOfFiles_of_fault clear absent]
  · intro before path fault after split
    rw [recites_iff, heard, split, linesOfFiles_between, linesOfFiles_of_closed, List.append_nil,
      linesOfFiles_append]

/-- Of the troubled files the first breaks off behind four lines and the second does not open; the last gives its
three lines as it does alone. -/
theorem failures_stay_apart_troubledFiles :
    ∃ recital, recital = (start ⟨2, 1⟩ troubledFiles).play (List.replicate 70 .own) ∧ recital.Finished ∧
      recital.heard.map SourceLine.number = [1, 2, 3, 4, 1, 2, 3] ∧
      recital.reader.stats.filesProcessed = 1 ∧ recital.reader.stats.filesFailed = 2 ∧
      recital.shared.progress.linesRead = 7 ∧ recital.shared.progress.bytesRead = 44 ∧
      (∀ own, Recites (troubledFiles.drop 2) own → ∃ first, recital.heard = first ++ own) ∧
      recital.reader.waiting = [] := by
  have finished : ((start ⟨2, 1⟩ troubledFiles).play (List.replicate 70 .own)).Finished := by decide +kernel
  have marked : ((start ⟨2, 1⟩ troubledFiles).play (List.replicate 70 .own)).shared.exhausted = true := by
    decide +kernel
  have numbers : (linesOfFiles troubledFiles).map SourceLine.number = [1, 2, 3, 4, 1, 2, 3] := by decide +kernel
  have bytes_eq : weightOf (linesOfFiles troubledFiles) = 44 := by decide +kernel
  have sound : troubledFiles.countP (fun file => file.isSound) = 1 := by decide +kernel
  have unsound : troubledFiles.countP (fun file => !file.isSound) = 2 := by decide +kernel
  have lines_eq : (linesOfFiles troubledFiles).length = 7 := by
    rw [← List.length_map SourceLine.number, numbers]
    rfl
  obtain ⟨_, told⟩ := failures_stay_apart ⟨2, 1⟩ troubledFiles
  obtain ⟨_, ofFinished, ofMarked⟩ := told (List.replicate 70 .own)
  obtain ⟨⟨heard, processed, failed, readLines, readBytes, countedLines, countedBytes⟩, apart, _⟩ :=
    ofFinished finished
  rw [heard, lines_eq] at readLines
  rw [heard, bytes_eq] at readBytes
  refine ⟨_, rfl, finished, (congrArg (List.map SourceLine.number) heard).trans numbers, processed.trans sound,
    failed.trans unsound, countedLines.trans readLines, countedBytes.trans readBytes, fun own alone => ?_,
    (ofMarked marked).2.1⟩
  have whole := apart (troubledFiles.take 2) _ [] _ own [] rfl (recites_iff.2 rfl) alone (recites_iff.2 rfl)
  exact ⟨_, whole.trans (List.append_nil _)⟩

end Recital

end EventFeed.Flow
