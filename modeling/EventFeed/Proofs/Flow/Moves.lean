import EventFeed.Flow.Run
import EventFeed.Proofs.Flow.SourceLines

/-!
# Moves

What one step of either side can be: a case for every branch of the step, with what was found and with
everything that it leaves behind. All that later modules say of steps is said case by case.
-/

namespace EventFeed.Flow

/-! ## The reader -/

/-- The moves of a reader, with the line that is handed over. -/
inductive Reader.Moves (reader : Reader) (shared : Shared) : Reader → Shared → Option SourceLine → Prop where
  | ended (between : reader.place = .betweenFiles) (last : reader.waiting = []) :
      Moves reader shared { reader with place := .finished }
        (if shared.exhausted then shared else shared.markExhausted.tell .exhausted) none
  | passedOver {file : SourceFile} {rest : List SourceFile} {fault : SystemFault}
      (between : reader.place = .betweenFiles) (next : reader.waiting = file :: rest)
      (content : file.content = .closed fault) :
      Moves reader shared (({ reader with waiting := rest } : Reader).giveUp shared file.path fault).1
        (({ reader with waiting := rest } : Reader).giveUp shared file.path fault).2 none
  | opened {file : SourceFile} {rest : List SourceFile} {bytes : List UInt8} {fault : Option SystemFault}
      (between : reader.place = .betweenFiles) (next : reader.waiting = file :: rest)
      (content : file.content = .readable bytes fault) :
      Moves reader shared { reader with waiting := rest, place := .looking ⟨file.path, bytes, fault, 0, 0⟩ }
        shared none
  | looked {file : OpenFile} (before : reader.place = .looking file) (open_ : shared.paused = false) :
      Moves reader shared { reader with place := .reading file } shared none
  | handedOver {file : OpenFile} {line rest : List UInt8} (before : reader.place = .reading file)
      (found : file.read = .line line rest) :
      Moves reader shared { reader with place := .looking (file.after line rest) }
        (shared.recordLine line.length) (some ⟨file.path, file.lines + 1, line⟩)
  | finished {file : OpenFile} (before : reader.place = .reading file) (found : file.read = .endOfFile) :
      Moves reader shared ((reader.close file).finish (Reader.countFile shared file) file).1
        ((reader.close file).finish (Reader.countFile shared file) file).2 none
  | failed {file : OpenFile} {fault : SystemFault} (before : reader.place = .reading file)
      (found : file.read = .fault fault) :
      Moves reader shared ((reader.close file).giveUp (Reader.countFile shared file) file.path fault).1
        ((reader.close file).giveUp (Reader.countFile shared file) file.path fault).2 none

theorem Reader.moves_of_nextFile {reader : Reader} (shared : Shared)
    (between : reader.place = .betweenFiles) :
    reader.Moves shared (reader.nextFile shared).1 (reader.nextFile shared).2 none := by
  unfold nextFile
  split
  · rename_i last
    exact .ended between last
  · rename_i file rest waiting
    split
    · rename_i fault content
      exact .passedOver between waiting content
    · rename_i bytes fault content
      exact .opened between waiting content

theorem Reader.moves_of_readOn {reader : Reader} (shared : Shared) {file : OpenFile}
    (before : reader.place = .reading file) :
    reader.Moves shared (reader.readOn shared file).1 (reader.readOn shared file).2.1
      (reader.readOn shared file).2.2 := by
  unfold readOn
  split
  · rename_i line rest found
    exact .handedOver before found
  · rename_i found
    exact .finished before found
  · rename_i fault found
    exact .failed before found

theorem Reader.moves_of_step {reader next : Reader} {shared after : Shared} {handed : Option SourceLine}
    (moved : reader.step shared = some (next, after, handed)) : reader.Moves shared next after handed := by
  unfold step at moved
  split at moved
  · rename_i between
    cases moved
    exact moves_of_nextFile shared between
  · rename_i file before
    split at moved
    · cases moved
    · rename_i running
      cases moved
      exact .looked before (by simpa using running)
  · rename_i file before
    have move := moves_of_readOn shared before
    rw [Option.some.inj moved] at move
    exact move
  · cases moved

/-! ## The intake -/

def Intake.Held.ofFetched : Option SourceLine → Intake.Held
  | none => .nothing
  | some handed => .line handed

/-- The moves of an intake, with the line that is read. -/
inductive Intake.Moves (intake : Intake) (shared : Shared) : Intake → Shared → Option SourceLine → Prop where
  | parsed {line : SourceLine} {event : Event} (held : intake.held = .line line)
      (verdict : Line.classify line.bytes = .event event) :
      Moves intake shared { intake with held := .event event } shared.recordParsed none
  | blank {line : SourceLine} (held : intake.held = .line line)
      (verdict : Line.classify line.bytes = .blank) :
      Moves intake shared { intake with held := .nothing } shared none
  | malformed {line : SourceLine} {refusal : Refusal} (held : intake.held = .line line)
      (verdict : Line.classify line.bytes = .malformed refusal) :
      Moves intake shared { intake with held := .nothing }
        ((shared.recordMalformed.count Series.linesMalformed 1).tell
          (.malformedLine line.path line.number refusal)) none
  | pushed {event : Event} (held : intake.held = .event event) :
      Moves intake shared { intake with held := .nothing } (shared.push event) none
  | read {reader : Reader} {after : Shared} {handed : Option SourceLine} (held : intake.held = .nothing)
      (moved : intake.reader.Moves shared reader after handed) :
      Moves intake shared ⟨reader, .ofFetched handed⟩ after handed

theorem Intake.moves_of_step {intake next : Intake} {shared after : Shared}
    (moved : intake.step shared = some (next, after)) :
    intake.Moves shared next after (intake.fetched shared) := by
  unfold step at moved
  split at moved
  · rename_i line held
    rw [fetched, held]
    unfold classify at moved
    split at moved
    · rename_i event verdict
      cases moved
      exact .parsed held verdict
    · rename_i verdict
      cases moved
      exact .blank held verdict
    · rename_i refusal verdict
      cases moved
      exact .malformed held verdict
  · rename_i event held
    rw [fetched, held]
    cases moved
    exact .pushed held
  · rename_i held
    rw [fetched, held]
    split at moved
    · cases moved
    · rename_i reader shared' stepped
      cases moved
      simp only [stepped, Option.bind_some]
      exact .read held (Reader.moves_of_step stepped)
    · rename_i reader shared' line stepped
      cases moved
      simp only [stepped, Option.bind_some]
      exact .read held (Reader.moves_of_step stepped)

/-! ## The sender -/

/-- The moves of a sender that need nobody else. -/
inductive Sender.Moves (tuning : Sender.Tuning) (sender : Sender) (shared : Shared) :
    Sender → Shared → Prop where
  | turned (before : sender.place = .ready) :
      Moves tuning sender shared { sender with place := .looking shared.exhausted } shared
  | decided {exhausted : Bool} {phase : Phase} (before : sender.place = .looking exhausted)
      (decision : Phase.decide shared.queue.depth exhausted tuning.lowThreshold = phase) :
      Moves tuning sender shared { (sender.enter shared phase).1 with place := Sender.placeOf phase }
        (sender.enter shared phase).2
  | drained (before : sender.place = .taking) :
      Moves tuning sender shared
        { sender with
          place := if shared.queue.taken tuning.maxBatch = [] then .ready
            else .counting (shared.queue.taken tuning.maxBatch) }
        (shared.drain tuning.maxBatch).2
  | counted {events : List Event} (before : sender.place = .counting events) :
      Moves tuning sender shared { sender with place := .offering events }
        (shared.recordConsumed events.length)
  | refused {events : List Event} {refusal : Refusal} (before : sender.place = .offering events)
      (made : Batch.make tuning.table events = .error refusal) :
      Moves tuning sender shared { sender with place := .aborted refusal } shared
  | offered {events : List Event} {batch : Batch} (before : sender.place = .offering events)
      (made : Batch.make tuning.table events = .ok batch) :
      Moves tuning sender shared { sender with place := .awaiting batch, handed := batch :: sender.handed }
        shared
  | recorded {count : Nat} {outcome : Outcome} (before : sender.place = .recording count outcome) :
      Moves tuning sender shared { sender with place := .ready } (Sender.record shared count outcome)
  | rested (before : sender.place = .resting) :
      Moves tuning sender shared { sender with place := .ready } shared

theorem Sender.moves_of_step {tuning : Sender.Tuning} {sender next : Sender} {shared after : Shared}
    (moved : sender.step tuning shared = some (next, after)) : sender.Moves tuning shared next after := by
  unfold step at moved
  split at moved
  · rename_i before
    cases moved
    exact .turned before
  · rename_i exhausted before
    cases moved
    exact .decided before rfl
  · rename_i before
    cases moved
    exact .drained before
  · rename_i events before
    cases moved
    exact .counted before
  · rename_i events before
    split at moved
    · rename_i refusal made
      cases moved
      exact .refused before made
    · rename_i batch made
      cases moved
      exact .offered before made
  · rename_i count outcome before
    cases moved
    exact .recorded before
  · rename_i before
    cases moved
    exact .rested before
  all_goals cases moved

theorem Sender.step_of_moves {tuning : Sender.Tuning} {sender next : Sender} {shared after : Shared}
    (moves : sender.Moves tuning shared next after) : sender.step tuning shared = some (next, after) := by
  cases moves with
  | turned before => simp [step, before]
  | decided before decision => simp [step, before, decision]
  | drained before =>
      simp only [step, before]
      rfl
  | counted before => simp [step, before]
  | refused before made => simp [step, before, made]
  | offered before made => simp [step, before, made]
  | recorded before => simp [step, before]
  | rested before => simp [step, before]

/-! ## What moves leave as it is -/

/-- A reader never touches the queue or its own pause. -/
theorem Reader.Moves.frame {reader next : Reader} {shared after : Shared} {handed : Option SourceLine}
    (moves : reader.Moves shared next after handed) :
    after.queue = shared.queue ∧ after.paused = shared.paused := by
  cases moves with
  | ended between last => split <;> exact ⟨rfl, rfl⟩
  | passedOver => exact ⟨rfl, rfl⟩
  | opened => exact ⟨rfl, rfl⟩
  | looked => exact ⟨rfl, rfl⟩
  | handedOver => exact ⟨rfl, rfl⟩
  | finished => exact ⟨rfl, rfl⟩
  | failed => exact ⟨rfl, rfl⟩

/-- The reading side touches queue and pause only with a push. -/
theorem Intake.Moves.frame_or_push {intake next : Intake} {shared after : Shared}
    {fetched : Option SourceLine} (moves : intake.Moves shared next after fetched) :
    (after.queue = shared.queue ∧ after.paused = shared.paused) ∨
      ∃ event, intake.held = .event event ∧ next = { intake with held := .nothing } ∧
        after = shared.push event := by
  cases moves with
  | parsed => exact .inl ⟨rfl, rfl⟩
  | blank => exact .inl ⟨rfl, rfl⟩
  | malformed => exact .inl ⟨rfl, rfl⟩
  | pushed held => exact .inr ⟨_, held, rfl, rfl⟩
  | read held moved => exact .inl moved.frame

theorem Sender.handed_enter (sender : Sender) (shared : Shared) (phase : Phase) :
    (sender.enter shared phase).1.handed = sender.handed := by
  unfold enter
  split <;> rfl

theorem Sender.frame_enter (sender : Sender) (shared : Shared) (phase : Phase) :
    (sender.enter shared phase).2.queue = shared.queue ∧
      (sender.enter shared phase).2.paused = shared.paused ∧
      (sender.enter shared phase).2.exhausted = shared.exhausted := by
  unfold enter
  split <;> exact ⟨rfl, rfl, rfl⟩

theorem Sender.frame_record (shared : Shared) (count : Nat) (outcome : Outcome) :
    (Sender.record shared count outcome).queue = shared.queue ∧
      (Sender.record shared count outcome).paused = shared.paused ∧
      (Sender.record shared count outcome).exhausted = shared.exhausted := by
  cases outcome <;> exact ⟨rfl, rfl, rfl⟩

/-- The sender touches queue and pause only with a drain that it has decided on. -/
theorem Sender.Moves.frame_or_drain {tuning : Sender.Tuning} {sender next : Sender} {shared after : Shared}
    (moves : sender.Moves tuning shared next after) :
    (after.queue = shared.queue ∧ after.paused = shared.paused) ∨
      sender.place = .taking ∧ after = (shared.drain tuning.maxBatch).2 := by
  cases moves with
  | turned => exact .inl ⟨rfl, rfl⟩
  | decided =>
      obtain ⟨sameQueue, samePause, _⟩ := frame_enter sender shared _
      exact .inl ⟨sameQueue, samePause⟩
  | drained before => exact .inr ⟨before, rfl⟩
  | counted => exact .inl ⟨rfl, rfl⟩
  | refused => exact .inl ⟨rfl, rfl⟩
  | offered => exact .inl ⟨rfl, rfl⟩
  | recorded =>
      obtain ⟨sameQueue, samePause, _⟩ := frame_record shared _ _
      exact .inl ⟨sameQueue, samePause⟩
  | rested => exact .inl ⟨rfl, rfl⟩

end EventFeed.Flow
