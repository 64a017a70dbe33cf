import EventFeed.Proofs.Flow.Returns

/-!
# Three sets of books

What was read is written down three times: line by line in the counts of the run, file by file in the figures
of the reader, and in the counters that anyone may look at. What became of lines and batches is written down
twice. In every state the books differ by no more than what the file in hand has given so far; when a run
returns its report, they agree.
-/

namespace EventFeed

/-- How far a counter has come that counts without a route. -/
def Metrics.total (metrics : Metrics) (name : String) : UInt64 :=
  metrics.counter ⟨name, none⟩

theorem Metrics.total_increment (metrics : Metrics) (name asked : String) (count : Nat) :
    (metrics.increment name count).total asked =
      if asked = name then metrics.total asked + UInt64.ofNat count else metrics.total asked := by
  unfold total increment
  split
  · rename_i same
    rw [same, counter_add_self]
  · rename_i different
    exact counter_add_of_ne _ (by simpa using different) _

/-- A counter that is neither of two that go up. -/
theorem Metrics.total_increment_increment {metrics : Metrics} {first second asked : String} (n m : Nat)
    (notFirst : asked ≠ first) (notSecond : asked ≠ second) :
    ((metrics.increment first n).increment second m).total asked = metrics.total asked := by
  rw [total_increment, if_neg notSecond, total_increment, if_neg notFirst]

end EventFeed

namespace EventFeed.Flow

variable {settings : Settings} {files : List SourceFile} {lines : List SourceLine} {state : State}

/-! ## What the reader wrote down -/

def Reader.inHand (reader : Reader) : Option OpenFile :=
  match reader.place with
  | .looking file => some file
  | .reading file => some file
  | .betweenFiles => none
  | .finished => none

/-- The lines and bytes that the file in hand has given. -/
def givenBy : Option OpenFile → Nat × Nat
  | none => (0, 0)
  | some file => (file.lines, file.bytes)

/-- What is written down about reading outside the reader. -/
structure ReadingFigures where
  lines : UInt64
  bytes : UInt64
  linesTotal : UInt64
  bytesTotal : UInt64
  filesTotal : UInt64
  failedTotal : UInt64

def Shared.reading (shared : Shared) : ReadingFigures where
  lines := shared.progress.linesRead
  bytes := shared.progress.bytesRead
  linesTotal := shared.metrics.total Series.linesRead
  bytesTotal := shared.metrics.total Series.bytesRead
  filesTotal := shared.metrics.total Series.filesRead
  failedTotal := shared.metrics.total Series.filesFailed

/-- The books about reading, with so many files at the start. -/
structure Reader.Booked (count : Nat) (reader : Reader) (figures : ReadingFigures) : Prop where
  lines_eq : figures.lines = reader.stats.linesRead + UInt64.ofNat (givenBy reader.inHand).1
  bytes_eq : figures.bytes = reader.stats.bytesRead + UInt64.ofNat (givenBy reader.inHand).2
  linesTotal_eq : figures.linesTotal = reader.stats.linesRead
  bytesTotal_eq : figures.bytesTotal = reader.stats.bytesRead
  filesTotal_eq : figures.filesTotal = UInt64.ofNat reader.stats.filesProcessed
  failedTotal_eq : figures.failedTotal = UInt64.ofNat reader.stats.filesFailed
  files_eq : reader.stats.filesProcessed + reader.stats.filesFailed + reader.inHand.toList.length +
    reader.waiting.length = count
  last : reader.place = .finished → reader.waiting = []

theorem Reader.Booked.start (files : List SourceFile) (marks : Watermarks) :
    (Reader.start files).Booked files.length (Shared.start marks).reading where
  lines_eq := rfl
  bytes_eq := rfl
  linesTotal_eq := rfl
  bytesTotal_eq := rfl
  filesTotal_eq := rfl
  failedTotal_eq := rfl
  files_eq := by simp [Reader.start, inHand]
  last := nofun

/-! ## What the reader writes down -/

/-- A closed file is written down in all books. -/
theorem Reader.Booked.close {count : Nat} {reader : Reader} {shared : Shared} {file : OpenFile}
    (booked : reader.Booked (count + 1) shared.reading) (inHand_eq : reader.inHand = some file) :
    ({ reader.close file with place := .betweenFiles } : Reader).Booked count
      (Reader.countFile shared file).reading := by
  obtain ⟨lines_eq, bytes_eq, linesTotal_eq, bytesTotal_eq, filesTotal_eq, failedTotal_eq, files_eq, _⟩ := booked
  have figures : (Reader.countFile shared file).reading =
      { shared.reading with
        linesTotal := shared.reading.linesTotal + UInt64.ofNat file.lines
        bytesTotal := shared.reading.bytesTotal + UInt64.ofNat file.bytes } := by
    simp [Shared.reading, Reader.countFile, Shared.count, Metrics.total_increment, Series.linesRead,
      Series.bytesRead, Series.filesRead, Series.filesFailed]
  rw [inHand_eq] at lines_eq bytes_eq files_eq
  rw [figures]
  refine ⟨?_, ?_, ?_, ?_, filesTotal_eq, failedTotal_eq, ?_, ?_⟩
  · rw [lines_eq]
    exact (UInt64.add_zero _).symm
  · rw [bytes_eq]
    exact (UInt64.add_zero _).symm
  · dsimp only
    rw [linesTotal_eq]
    rfl
  · dsimp only
    rw [bytesTotal_eq]
    rfl
  · simp only [Option.toList_some, List.length_singleton] at files_eq
    simp only [Reader.close, SourceStats.close, inHand, Option.toList_none, List.length_nil]
    omega
  · rintro ⟨⟩

/-- A file that is given up is one of the files that failed. -/
theorem Reader.Booked.giveUp {count : Nat} {reader : Reader} {shared : Shared}
    (booked : ({ reader with place := .betweenFiles } : Reader).Booked count shared.reading) (path : Path)
    (fault : SystemFault) :
    (reader.giveUp shared path fault).1.Booked (count + 1) (reader.giveUp shared path fault).2.reading := by
  obtain ⟨lines_eq, bytes_eq, linesTotal_eq, bytesTotal_eq, filesTotal_eq, failedTotal_eq, files_eq, _⟩ := booked
  have figures : (reader.giveUp shared path fault).2.reading =
      { shared.reading with failedTotal := shared.reading.failedTotal + 1 } := by
    simp [Shared.reading, Reader.giveUp, Shared.count, Shared.tell, Metrics.total_increment, Series.linesRead,
      Series.bytesRead, Series.filesRead, Series.filesFailed]
  rw [figures]
  refine ⟨lines_eq, bytes_eq, linesTotal_eq, bytesTotal_eq, filesTotal_eq, ?_, ?_, ?_⟩
  · dsimp only [Reader.giveUp] at failedTotal_eq ⊢
    rw [failedTotal_eq, UInt64.ofNat_add]
    rfl
  · simp only [inHand, Reader.giveUp] at files_eq ⊢
    omega
  · rintro ⟨⟩

/-- A file that was read to its end is one of the files that were processed. -/
theorem Reader.Booked.finish {count : Nat} {reader : Reader} {shared : Shared}
    (booked : ({ reader with place := .betweenFiles } : Reader).Booked count shared.reading) (file : OpenFile) :
    (reader.finish shared file).1.Booked (count + 1) (reader.finish shared file).2.reading := by
  obtain ⟨lines_eq, bytes_eq, linesTotal_eq, bytesTotal_eq, filesTotal_eq, failedTotal_eq, files_eq, _⟩ := booked
  have figures : (reader.finish shared file).2.reading =
      { shared.reading with filesTotal := shared.reading.filesTotal + 1 } := by
    simp [Shared.reading, Reader.finish, Shared.count, Shared.tell, Metrics.total_increment, Series.linesRead,
      Series.bytesRead, Series.filesRead, Series.filesFailed]
  rw [figures]
  refine ⟨lines_eq, bytes_eq, linesTotal_eq, bytesTotal_eq, ?_, failedTotal_eq, ?_, ?_⟩
  · dsimp only [Reader.finish] at filesTotal_eq ⊢
    rw [filesTotal_eq, UInt64.ofNat_add]
    rfl
  · simp only [inHand, Reader.finish] at files_eq ⊢
    omega
  · rintro ⟨⟩

/-- Every move of a reader keeps the books: a line goes into the counts at once, and into the other two books
when its file is closed. -/
theorem Reader.Moves.booked {reader after : Reader} {shared later : Shared} {handed : Option SourceLine}
    {count : Nat} (moves : reader.Moves shared after later handed)
    (booked : reader.Booked count shared.reading) : after.Booked count later.reading := by
  have opened {file : OpenFile} (inHand_eq : reader.inHand = some file) : ∃ rest, count = rest + 1 := by
    have files_eq := booked.files_eq
    rw [inHand_eq, Option.toList_some, List.length_singleton] at files_eq
    exact ⟨count - 1, by omega⟩
  obtain ⟨lines_eq, bytes_eq, linesTotal_eq, bytesTotal_eq, filesTotal_eq, failedTotal_eq, files_eq, _⟩ := id booked
  cases moves with
  | ended between last =>
      have same : (if shared.exhausted then shared else shared.markExhausted.tell .exhausted).reading =
          shared.reading := by
        split <;> rfl
      simp only [inHand, between] at lines_eq bytes_eq files_eq
      rw [same]
      exact ⟨lines_eq, bytes_eq, linesTotal_eq, bytesTotal_eq, filesTotal_eq, failedTotal_eq, files_eq,
        fun _ => last⟩
  | @passedOver file rest fault between next content =>
      simp only [inHand, between, next, List.length_cons] at lines_eq bytes_eq files_eq
      obtain ⟨others, rfl⟩ : ∃ others, count = others + 1 := ⟨count - 1, by omega⟩
      refine @Booked.giveUp others { reader with waiting := rest } shared
        ⟨lines_eq, bytes_eq, linesTotal_eq, bytesTotal_eq, filesTotal_eq, failedTotal_eq, ?_, nofun⟩ file.path fault
      simp only [inHand]
      omega
  | @opened file rest bytes fault between next content =>
      simp only [inHand, between, next] at lines_eq bytes_eq files_eq
      refine ⟨lines_eq, bytes_eq, linesTotal_eq, bytesTotal_eq, filesTotal_eq, failedTotal_eq, ?_, nofun⟩
      simp only [inHand, Option.toList_none, Option.toList_some, List.length_nil, List.length_cons] at files_eq ⊢
      omega
  | @looked file before open_ =>
      simp only [inHand, before] at lines_eq bytes_eq files_eq
      exact ⟨lines_eq, bytes_eq, linesTotal_eq, bytesTotal_eq, filesTotal_eq, failedTotal_eq, files_eq, nofun⟩
  | @handedOver file line rest before found =>
      simp only [inHand, before] at lines_eq bytes_eq files_eq
      refine ⟨?_, ?_, linesTotal_eq, bytesTotal_eq, filesTotal_eq, failedTotal_eq, files_eq, nofun⟩
      · simp only [Shared.reading, Shared.recordLine, Progress.line, inHand, givenBy, OpenFile.after,
          UInt64.ofNat_add] at lines_eq ⊢
        rw [lines_eq, UInt64.add_assoc]
        rfl
      · simp only [Shared.reading, Shared.recordLine, Progress.line, inHand, givenBy, OpenFile.after,
          UInt64.ofNat_add] at bytes_eq ⊢
        rw [bytes_eq, UInt64.add_assoc]
  | @finished file before found =>
      have inHand_eq : reader.inHand = some file := by simp only [inHand, before]
      obtain ⟨others, rfl⟩ := opened inHand_eq
      exact (booked.close inHand_eq).finish file
  | @failed file fault before found =>
      have inHand_eq : reader.inHand = some file := by simp only [inHand, before]
      obtain ⟨others, rfl⟩ := opened inHand_eq
      exact (booked.close inHand_eq).giveUp file.path fault

theorem Shared.reading_heed (shared : Shared) (depth : Nat) (signal : Option Signal) :
    (shared.heed depth signal).reading = shared.reading := by
  cases signal with
  | none => rfl
  | some signal => cases signal <;> rfl

theorem Intake.Moves.booked {intake after : Intake} {shared later : Shared} {fetched : Option SourceLine}
    {count : Nat} (moves : intake.Moves shared after later fetched)
    (booked : intake.reader.Booked count shared.reading) : after.reader.Booked count later.reading := by
  cases moves with
  | parsed => exact booked
  | blank => exact booked
  | @malformed line refusal held verdict =>
      have same : ((shared.recordMalformed.count Series.linesMalformed 1).tell
          (.malformedLine line.path line.number refusal)).reading = shared.reading := by
        simp [Shared.reading, Shared.count, Shared.tell, Shared.recordMalformed, Progress.malformed,
          Metrics.total_increment, Series.linesMalformed, Series.linesRead, Series.bytesRead, Series.filesRead,
          Series.filesFailed]
      rw [same]
      exact booked
  | @pushed event held =>
      have same : (shared.push event).reading = shared.reading := Shared.reading_heed _ _ _
      rw [same]
      exact booked
  | read held moved => exact moved.booked booked

/-- Nothing that the sender does is about reading. -/
theorem Sender.Moves.reading_eq {tuning : Sender.Tuning} {sender after : Sender} {shared later : Shared}
    (moves : sender.Moves tuning shared after later) : later.reading = shared.reading := by
  cases moves with
  | turned => rfl
  | decided =>
      unfold enter
      split <;> rfl
  | drained => exact Shared.reading_heed _ _ _
  | counted => rfl
  | refused => rfl
  | offered => rfl
  | @recorded count outcome before =>
      cases outcome <;>
        simp [Shared.reading, record, Shared.count, Shared.tell, Shared.report, Shared.recordSent,
          Shared.recordFailed, Progress.sent, Progress.failed, Metrics.total_increment, Series.batchesSent,
          Series.batchesFailed, Series.eventsSent, Series.eventsFailed, Series.linesRead, Series.bytesRead,
          Series.filesRead, Series.filesFailed]
  | rested => rfl

theorem Reachable.readerBooked (reached : Reachable settings files state) :
    state.intake.reader.Booked files.length state.shared.reading := by
  induction reached with
  | refl => exact .start files settings.marks
  | tail _ step ih =>
      cases step with
      | read moved => exact (Intake.moves_of_step moved).booked ih
      | send moved =>
          dsimp only
          rw [(Sender.moves_of_step moved).reading_eq]
          exact ih
      | hear => exact ih

/-! ## What became of lines and batches -/

/-- The books about malformed lines, batches and the queue. -/
structure Shared.Booked (shared : Shared) : Prop where
  malformed_eq : shared.metrics.total Series.linesMalformed = shared.progress.linesMalformed
  sent_eq : shared.metrics.total Series.batchesSent = shared.progress.batchesSent
  failed_eq : shared.metrics.total Series.batchesFailed = shared.progress.batchesFailed
  delivered_eq : shared.metrics.total Series.eventsSent = shared.progress.eventsDelivered
  lost_eq : shared.metrics.total Series.eventsFailed = shared.progress.eventsFailed
  depth_eq : ∀ shown ∈ shared.metrics.gauge? Series.queueDepth, shown = Binary64.ofNat shared.queue.depth
  paused_eq : ∀ shown ∈ shared.metrics.gauge? Series.sourcePaused,
    shown = Binary64.ofNat shared.queue.pauseRequested.toNat
  pauses_eq : shared.queue.pauses = shared.queue.resumes + shared.queue.pauseRequested.toNat

namespace Shared.Booked

variable {shared : Shared}

theorem start (marks : Watermarks) : (Shared.start marks).Booked :=
  ⟨rfl, rfl, rfl, rfl, rfl, nofun, nofun, rfl⟩

theorem tell (booked : shared.Booked) (notice : Notice) : (shared.tell notice).Booked :=
  { booked with }

theorem count (booked : shared.Booked) {name : String} (n : Nat)
    (other : name ∉ [Series.linesMalformed, Series.batchesSent, Series.batchesFailed, Series.eventsSent,
      Series.eventsFailed]) : (shared.count name n).Booked := by
  obtain ⟨malformed_eq, sent_eq, failed_eq, delivered_eq, lost_eq, depth_eq, paused_eq, pauses_eq⟩ := booked
  simp only [List.mem_cons, List.not_mem_nil, or_false, not_or] at other
  refine ⟨?_, ?_, ?_, ?_, ?_, depth_eq, paused_eq, pauses_eq⟩
  · simpa [Shared.count, Metrics.total_increment, Ne.symm other.1] using malformed_eq
  · simpa [Shared.count, Metrics.total_increment, Ne.symm other.2.1] using sent_eq
  · simpa [Shared.count, Metrics.total_increment, Ne.symm other.2.2.1] using failed_eq
  · simpa [Shared.count, Metrics.total_increment, Ne.symm other.2.2.2.1] using delivered_eq
  · simpa [Shared.count, Metrics.total_increment, Ne.symm other.2.2.2.2] using lost_eq

/-- A malformed line goes into both books at once. -/
theorem malformedLine (booked : shared.Booked) :
    (shared.recordMalformed.count Series.linesMalformed 1).Booked := by
  obtain ⟨malformed_eq, sent_eq, failed_eq, delivered_eq, lost_eq, depth_eq, paused_eq, pauses_eq⟩ := booked
  have metrics_eq : (shared.recordMalformed.count Series.linesMalformed 1).metrics =
      shared.metrics.increment Series.linesMalformed 1 := rfl
  refine ⟨?_, ?_, ?_, ?_, ?_, depth_eq, paused_eq, pauses_eq⟩ <;> rw [metrics_eq, Metrics.total_increment]
  · rw [if_pos rfl, malformed_eq]
    rfl
  · rw [if_neg (by decide), sent_eq]
    rfl
  · rw [if_neg (by decide), failed_eq]
    rfl
  · rw [if_neg (by decide), delivered_eq]
    rfl
  · rw [if_neg (by decide), lost_eq]
    rfl

/-- What a queue asks for is heeded and shown in the step that asks for it. -/
theorem heed (booked : shared.Booked) {queue : Queue} {signal : Option Signal}
    (sameRequest : queue.pauseRequested = shared.queue.pauseRequested)
    (samePauses : queue.pauses = shared.queue.pauses) (sameResumes : queue.resumes = shared.queue.resumes)
    (pausing : signal = some .pause → shared.queue.pauseRequested = false)
    (resuming : signal = some .resume → shared.queue.pauseRequested = true) :
    ((({ shared with queue := queue.remember signal } : Shared).heed (queue.remember signal).depth signal).showOn
      Series.queueDepth (queue.remember signal).depth).Booked := by
  obtain ⟨malformed_eq, sent_eq, failed_eq, delivered_eq, lost_eq, depth_eq, paused_eq, pauses_eq⟩ := booked
  have apart : Series.sourcePaused ≠ Series.queueDepth := by decide
  cases signal with
  | none =>
      refine ⟨malformed_eq, sent_eq, failed_eq, delivered_eq, lost_eq, ?_, ?_, ?_⟩
      · simp [showOn, Shared.heed, Metrics.gauge?_setGauge_self]
      · simpa [showOn, Shared.heed, Metrics.gauge?_setGauge_of_ne _ apart, Queue.remember, sameRequest]
          using paused_eq
      · simpa [showOn, Shared.heed, Queue.remember, sameRequest, samePauses, sameResumes] using pauses_eq
  | some signal =>
      cases signal with
      | pause =>
          have before := pausing rfl
          rw [before] at pauses_eq
          refine ⟨malformed_eq, sent_eq, failed_eq, delivered_eq, lost_eq, ?_, ?_, ?_⟩
          · simp [showOn, Shared.heed, Shared.tell, Metrics.gauge?_setGauge_self]
          · simp [showOn, Shared.heed, Shared.tell, Metrics.gauge?_setGauge_of_ne _ apart,
              Metrics.gauge?_setGauge_self, Queue.remember]
          · simp [showOn, Shared.heed, Shared.tell, Queue.remember, samePauses, sameResumes, pauses_eq]
      | resume =>
          have before := resuming rfl
          rw [before] at pauses_eq
          refine ⟨malformed_eq, sent_eq, failed_eq, delivered_eq, lost_eq, ?_, ?_, ?_⟩
          · simp [showOn, Shared.heed, Shared.tell, Metrics.gauge?_setGauge_self]
          · simp [showOn, Shared.heed, Shared.tell, Metrics.gauge?_setGauge_of_ne _ apart,
              Metrics.gauge?_setGauge_self, Queue.remember]
          · simp [showOn, Shared.heed, Shared.tell, Queue.remember, samePauses, sameResumes, pauses_eq]

theorem push (booked : shared.Booked) (event : Event) : (shared.push event).Booked := by
  refine booked.heed rfl rfl rfl ?_ ?_
  · intro asked
    unfold Queue.signalOfPush at asked
    split at asked
    · rename_i full
      exact full.2
    · cases asked
  · intro asked
    unfold Queue.signalOfPush at asked
    split at asked <;> cases asked

theorem drain (booked : shared.Booked) (most : Nat) : (shared.drain most).2.Booked := by
  refine booked.heed rfl rfl rfl ?_ ?_
  · intro asked
    unfold Queue.signalOfDrain at asked
    split at asked <;> cases asked
  · intro asked
    unfold Queue.signalOfDrain at asked
    split at asked
    · rename_i low
      exact low.1
    · cases asked

/-- An outcome goes into both books, and only into the accounts that it is about. -/
theorem record (booked : shared.Booked) (count : Nat) (outcome : Outcome) :
    (Sender.record shared count outcome).Booked := by
  obtain ⟨malformed_eq, sent_eq, failed_eq, delivered_eq, lost_eq, depth_eq, paused_eq, pauses_eq⟩ := booked
  cases outcome with
  | ok response =>
      have metrics_eq : (Sender.record shared count (.ok response)).metrics =
          (shared.metrics.increment Series.batchesSent 1).increment Series.eventsSent count := rfl
      refine ⟨?_, ?_, ?_, ?_, ?_, ?_, ?_, pauses_eq⟩ <;> rw [metrics_eq]
      · exact (Metrics.total_increment_increment 1 count (by decide) (by decide)).trans malformed_eq
      · rw [Metrics.total_increment, Metrics.total_increment, if_neg (by decide), if_pos rfl, sent_eq]
        rfl
      · exact (Metrics.total_increment_increment 1 count (by decide) (by decide)).trans failed_eq
      · rw [Metrics.total_increment, Metrics.total_increment, if_pos rfl, if_neg (by decide), delivered_eq]
        rfl
      · exact (Metrics.total_increment_increment 1 count (by decide) (by decide)).trans lost_eq
      · exact depth_eq
      · exact paused_eq
  | error fault =>
      have metrics_eq : (Sender.record shared count (.error fault)).metrics =
          (shared.metrics.increment Series.batchesFailed 1).increment Series.eventsFailed count := rfl
      refine ⟨?_, ?_, ?_, ?_, ?_, ?_, ?_, pauses_eq⟩ <;> rw [metrics_eq]
      · exact (Metrics.total_increment_increment 1 count (by decide) (by decide)).trans malformed_eq
      · exact (Metrics.total_increment_increment 1 count (by decide) (by decide)).trans sent_eq
      · rw [Metrics.total_increment, Metrics.total_increment, if_neg (by decide), if_pos rfl, failed_eq]
        rfl
      · exact (Metrics.total_increment_increment 1 count (by decide) (by decide)).trans delivered_eq
      · rw [Metrics.total_increment, Metrics.total_increment, if_pos rfl, if_neg (by decide), lost_eq]
        rfl
      · exact depth_eq
      · exact paused_eq

end Shared.Booked

theorem Reader.Moves.sharedBooked {reader after : Reader} {shared later : Shared} {handed : Option SourceLine}
    (moves : reader.Moves shared after later handed) (booked : shared.Booked) : later.Booked := by
  cases moves with
  | ended =>
      split
      · exact booked
      · exact { booked with }
  | passedOver => exact (booked.count 1 (by decide)).tell _
  | opened => exact booked
  | looked => exact booked
  | handedOver => exact { booked with }
  | @finished file =>
      exact (((booked.count file.lines (by decide)).count file.bytes (by decide)).count 1 (by decide)).tell _
  | @failed file =>
      exact (((booked.count file.lines (by decide)).count file.bytes (by decide)).count 1 (by decide)).tell _

theorem Intake.Moves.sharedBooked {intake after : Intake} {shared later : Shared} {fetched : Option SourceLine}
    (moves : intake.Moves shared after later fetched) (booked : shared.Booked) : later.Booked := by
  cases moves with
  | parsed => exact { booked with }
  | blank => exact booked
  | malformed => exact booked.malformedLine.tell _
  | pushed => exact booked.push _
  | read held moved => exact moved.sharedBooked booked

theorem Sender.Moves.sharedBooked {tuning : Sender.Tuning} {sender after : Sender} {shared later : Shared}
    (moves : sender.Moves tuning shared after later) (booked : shared.Booked) : later.Booked := by
  cases moves with
  | turned => exact booked
  | decided =>
      unfold enter
      split
      · exact booked
      · exact booked.tell _
  | drained => exact booked.drain _
  | counted => exact { booked with }
  | refused => exact booked
  | offered => exact booked
  | recorded => exact booked.record _ _
  | rested => exact booked

theorem Reachable.sharedBooked (reached : Reachable settings files state) : state.shared.Booked := by
  induction reached with
  | refl => exact ((Shared.Booked.start settings.marks).tell _).tell _
  | tail _ step ih =>
      cases step with
      | read moved => exact (Intake.moves_of_step moved).sharedBooked ih
      | send moved => exact (Sender.moves_of_step moved).sharedBooked ih
      | hear => exact ih

/-! ## The report -/

/-- A report that does not contradict itself. -/
structure Report.Consistent (report : Report) : Prop where
  files_eq : report.files = report.source.filesProcessed + report.source.filesFailed
  lines_eq : report.source.linesRead = report.progress.linesRead
  bytes_eq : report.source.bytesRead = report.progress.bytesRead
  pauses_eq : report.queue.pauses = report.queue.resumes

/-- Metrics that show what a report says. A counter that was never touched counts as zero, and a gauge that
was never set is not looked at. -/
structure Report.ShownBy (report : Report) (metrics : Metrics) : Prop where
  filesRead_eq : metrics.total Series.filesRead = UInt64.ofNat report.source.filesProcessed
  filesFailed_eq : metrics.total Series.filesFailed = UInt64.ofNat report.source.filesFailed
  linesRead_eq : metrics.total Series.linesRead = report.progress.linesRead
  bytesRead_eq : metrics.total Series.bytesRead = report.progress.bytesRead
  linesMalformed_eq : metrics.total Series.linesMalformed = report.progress.linesMalformed
  batchesSent_eq : metrics.total Series.batchesSent = report.progress.batchesSent
  batchesFailed_eq : metrics.total Series.batchesFailed = report.progress.batchesFailed
  eventsSent_eq : metrics.total Series.eventsSent = report.progress.eventsDelivered
  eventsFailed_eq : metrics.total Series.eventsFailed = report.progress.eventsFailed
  queueDepth_eq : ∀ shown ∈ metrics.gauge? Series.queueDepth, shown = Binary64.zero false
  sourcePaused_eq : ∀ shown ∈ metrics.gauge? Series.sourcePaused, shown = Binary64.zero false

/-- No file is in hand when the reader has finished, and none waits. -/
theorem Reader.Booked.finished {count : Nat} {reader : Reader} {figures : ReadingFigures}
    (booked : reader.Booked count figures) (finished : reader.place = .finished) :
    reader.inHand = none ∧ reader.stats.filesProcessed + reader.stats.filesFailed = count := by
  have nothing : reader.inHand = none := by simp only [inHand, finished]
  have files_eq := booked.files_eq
  rw [nothing, booked.last finished] at files_eq
  exact ⟨nothing, files_eq⟩

/-- The reader cannot finish while it is paused. -/
theorem Exhausted.unpaused (accepted : settings.Accepted) (reached : Reachable settings files state)
    (exhausted : Exhausted state) : state.shared.queue.pauseRequested = false := by
  have regulated := reached.regulated accepted
  rw [← regulated.inStep]
  by_contra paused
  obtain ⟨_, file, looking⟩ := regulated.halted (by simpa using paused)
  rw [exhausted.finished] at looking
  cases looking

/-- The three sets of books agree in every run that returns a report, whichever files failed, whatever the
sink said and in whatever order both sides took their steps: the report does not contradict itself, and the
metrics show what it says. -/
theorem Returns.report_agrees (accepted : settings.Accepted) {found : Except SystemFault Found}
    {last : Option State} {report : Report} (returned : Returns settings found lines last (.finished report)) :
    report.Consistent ∧ ∃ state ∈ last, report.ShownBy state.shared.metrics := by
  cases returned with
  | @finished found _ state course complete =>
      have exhausted := (course.exhausted_of_complete accepted complete).1
      have running := exhausted.unpaused accepted course.reachable
      have empty : state.shared.queue.depth = 0 := by
        rw [Queue.depth, Fifo.size_eq_length, exhausted.empty, List.length_nil]
      have read := course.reachable.readerBooked
      obtain ⟨nothing, files_eq⟩ := read.finished exhausted.finished
      obtain ⟨lines_eq, bytes_eq, linesTotal_eq, bytesTotal_eq, filesTotal_eq, failedTotal_eq, _, _⟩ := read
      obtain ⟨malformed_eq, sent_eq, failed_eq, delivered_eq, lost_eq, depth_eq, paused_eq, pauses_eq⟩ :=
        course.reachable.sharedBooked
      rw [nothing] at lines_eq bytes_eq
      rw [running] at paused_eq pauses_eq
      rw [empty] at depth_eq
      have sameLines : state.intake.reader.stats.linesRead = state.shared.progress.linesRead :=
        (lines_eq.trans (UInt64.add_zero _)).symm
      have sameBytes : state.intake.reader.stats.bytesRead = state.shared.progress.bytesRead :=
        (bytes_eq.trans (UInt64.add_zero _)).symm
      constructor
      · exact ⟨files_eq.symm, sameLines, sameBytes, pauses_eq⟩
      · exact ⟨_, rfl, filesTotal_eq, failedTotal_eq, linesTotal_eq.trans sameLines,
          bytesTotal_eq.trans sameBytes, malformed_eq, sent_eq, failed_eq, delivered_eq, lost_eq, depth_eq,
          paused_eq⟩

/-- Of three files two fail, of seven lines one is malformed, and none of five batches is taken. -/
theorem Returns.report_agrees_troubledRun :
    Settings.narrow.Accepted ∧ ∃ lines state report,
      Returns .narrow (.ok troubledFound) lines (some state) (.finished report) ∧
        report.files = 3 ∧ report.source = ⟨1, 2, 7, 44⟩ ∧ report.queue = ⟨2, 2, 2⟩ ∧
        report.progress.batchesFailed = 5 ∧ report.progress.linesMalformed = 1 ∧
        report.Consistent ∧ report.ShownBy state.shared.metrics := by
  obtain ⟨lines, course⟩ := exists_course_troubledRun 71
  rw [← ofFound_troubledFound] at course
  have complete : (troubledRun 71).sender.place = .complete :=
    Sender.Place.isComplete_iff.1 (by decide +kernel)
  have returned := Returns.finished course complete
  obtain ⟨consistent, state, same, shown⟩ := Returns.report_agrees Settings.narrow_accepted returned
  cases same
  refine ⟨Settings.narrow_accepted, lines, _, _, returned, ?_, ?_, ?_, ?_, ?_, consistent, shown⟩
  · rw [ofFound_troubledFound]
    rfl
  · decide +kernel
  · decide +kernel
  · decide +kernel
  · decide +kernel

end EventFeed.Flow
