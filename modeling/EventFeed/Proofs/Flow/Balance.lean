import EventFeed.Proofs.Flow.Completion

/-!
# What the counts add up to

Reader and sender write their counts down at different points of their ways, some before an event moves and
some after it. With what is on its way between two counts added, the counts of a run agree in every state;
when the run has come to its end nothing is on its way any more.
-/

namespace EventFeed.Flow

variable {settings : Settings} {files : List SourceFile} {lines : List SourceLine} {state next : State}

/-! ## On the way -/

/-- The line is one of those that are passed over in silence. -/
def SourceLine.isBlank (line : SourceLine) : Bool :=
  match Line.classify line.bytes with
  | .blank => true
  | .event _ => false
  | .malformed _ => false

def blanks (lines : List SourceLine) : Nat :=
  lines.countP SourceLine.isBlank

/-- Those of the lines read of which it is known what they are. -/
def Intake.Held.classified : Intake.Held → List SourceLine → List SourceLine
  | .nothing, lines => lines
  | .line _, lines => lines.dropLast
  | .event _, lines => lines

/-- Lines that were counted and not told what they are. -/
def Intake.Held.unclassified : Intake.Held → Nat
  | .nothing => 0
  | .line _ => 1
  | .event _ => 0

/-- Events that were counted and not put into the queue. -/
def Intake.Held.unpushed : Intake.Held → Nat
  | .nothing => 0
  | .line _ => 0
  | .event _ => 1

/-- Events that left the queue and were not counted since. -/
def Sender.uncounted (sender : Sender) : Nat :=
  match sender.place with
  | .counting events => events.length
  | _ => 0

/-- Events that were counted when they left the queue, and of which no outcome was written down. -/
def Sender.unsettled (sender : Sender) : Nat :=
  match sender.place with
  | .offering events => events.length
  | .awaiting batch => batch.size
  | .recording count _ => count
  | _ => 0

/-- Calls of the sink of which no outcome was written down. -/
def Sender.unanswered (sender : Sender) : Nat :=
  match sender.place with
  | .awaiting _ => 1
  | .recording _ _ => 1
  | _ => 0

/-! ## The balance -/

/-- The counts agree, with what is on its way. -/
structure Balanced (lines : List SourceLine) (state : State) : Prop where
  lines_eq : state.shared.progress.linesRead =
    state.shared.progress.eventsParsed + state.shared.progress.linesMalformed +
      UInt64.ofNat (blanks (state.intake.held.classified lines)) +
      UInt64.ofNat state.intake.held.unclassified
  parsed_eq : state.shared.progress.eventsParsed =
    state.shared.progress.eventsConsumed + UInt64.ofNat state.shared.queue.depth +
      UInt64.ofNat state.sender.uncounted + UInt64.ofNat state.intake.held.unpushed
  consumed_eq : state.shared.progress.eventsConsumed =
    state.shared.progress.eventsDelivered + state.shared.progress.eventsFailed +
      UInt64.ofNat state.sender.unsettled
  calls_eq : state.shared.progress.batchesSent + state.shared.progress.batchesFailed +
    UInt64.ofNat state.sender.unanswered = UInt64.ofNat state.sender.handed.length

theorem Balanced.start (settings : Settings) (files : List SourceFile) :
    Balanced [] (State.start settings files) :=
  ⟨rfl, rfl, rfl, rfl⟩

/-! ## The reading side -/

theorem Reader.Moves.progress_eq {reader after : Reader} {shared later : Shared}
    {handed : Option SourceLine} (moves : reader.Moves shared after later handed) :
    later.progress = match handed with
      | some line => shared.progress.line line.bytes.length
      | none => shared.progress := by
  cases moves with
  | ended => split <;> rfl
  | passedOver => rfl
  | opened => rfl
  | looked => rfl
  | handedOver => rfl
  | finished => rfl
  | failed => rfl

/-- The line that was read last counts among the blank ones when it is told to be blank. -/
theorem Intake.Held.Follows.blanks_of_blank {line : SourceLine} (follows : (Held.line line).Follows lines)
    (blank : line.isBlank = true) : blanks lines = blanks ((Held.line line).classified lines) + 1 := by
  cases follows with
  | line last => simp [blanks, classified, List.countP_append, blank]

theorem Intake.Held.Follows.blanks_of_other {line : SourceLine} (follows : (Held.line line).Follows lines)
    (other : line.isBlank = false) : blanks lines = blanks ((Held.line line).classified lines) := by
  cases follows with
  | line last => simp [blanks, classified, List.countP_append, other]

/-- A line that is counted as read is on its way until it is told what it is, and then it is an event, or
malformed, or blank. An event among them is on its way until it is put into the queue. -/
theorem Balanced.read (follows : state.intake.held.Follows lines) (balanced : Balanced lines state)
    {intake : Intake} {shared : Shared} {fetched : Option SourceLine}
    (moves : state.intake.Moves state.shared intake shared fetched) :
    Balanced (lines ++ fetched.toList) { state with intake := intake, shared := shared } := by
  obtain ⟨lines_eq, parsed_eq, consumed_eq, calls_eq⟩ := balanced
  cases moves with
  | @parsed line event held verdict =>
      rw [held] at follows lines_eq parsed_eq
      rw [← follows.blanks_of_other (by rw [SourceLine.isBlank, verdict])] at lines_eq
      refine ⟨?_, ?_, consumed_eq, calls_eq⟩
      · simp only [Option.toList_none, List.append_nil, Shared.recordParsed, Progress.parsed,
          Intake.Held.classified, Intake.Held.unclassified] at lines_eq ⊢
        rw [lines_eq]
        ac_rfl
      · simp only [Shared.recordParsed, Progress.parsed, Intake.Held.unpushed] at parsed_eq ⊢
        rw [parsed_eq]
        ac_rfl
  | @blank line held verdict =>
      rw [held] at follows lines_eq parsed_eq
      refine ⟨?_, parsed_eq, consumed_eq, calls_eq⟩
      simp only [Option.toList_none, List.append_nil, Intake.Held.unclassified] at lines_eq ⊢
      rw [lines_eq, Intake.Held.classified,
        follows.blanks_of_blank (by rw [SourceLine.isBlank, verdict]), UInt64.ofNat_add]
      ac_rfl
  | @malformed line refusal held verdict =>
      rw [held] at follows lines_eq parsed_eq
      rw [← follows.blanks_of_other (by rw [SourceLine.isBlank, verdict])] at lines_eq
      refine ⟨?_, parsed_eq, consumed_eq, calls_eq⟩
      simp only [Option.toList_none, List.append_nil, Shared.tell, Shared.count, Shared.recordMalformed,
        Progress.malformed, Intake.Held.classified, Intake.Held.unclassified] at lines_eq ⊢
      rw [lines_eq]
      ac_rfl
  | @pushed event held =>
      rw [held] at lines_eq parsed_eq
      refine ⟨?_, ?_, ?_, ?_⟩
      · rw [Option.toList_none, List.append_nil, Shared.progress_push]
        exact lines_eq
      · simp only [Shared.progress_push, Shared.queue_push, Queue.depth_push, Intake.Held.unpushed,
          UInt64.ofNat_add] at parsed_eq ⊢
        rw [parsed_eq]
        ac_rfl
      · rw [Shared.progress_push]
        exact consumed_eq
      · rw [Shared.progress_push]
        exact calls_eq
  | read held moved =>
      rw [held] at lines_eq parsed_eq
      have progress_eq := moved.progress_eq
      have sameQueue := moved.frame.1
      cases fetched with
      | none =>
          dsimp only at progress_eq
          constructor
          · rw [progress_eq, Option.toList_none, List.append_nil]
            exact lines_eq
          · rw [progress_eq, sameQueue]
            exact parsed_eq
          · rw [progress_eq]
            exact consumed_eq
          · rw [progress_eq]
            exact calls_eq
      | some line =>
          dsimp only at progress_eq
          constructor
          · simp only [Option.toList_some, progress_eq, Progress.line, Intake.Held.ofFetched,
              Intake.Held.classified, Intake.Held.unclassified, List.dropLast_concat] at lines_eq ⊢
            rw [lines_eq]
            ac_rfl
          · rw [progress_eq, sameQueue]
            exact parsed_eq
          · rw [progress_eq]
            exact consumed_eq
          · rw [progress_eq]
            exact calls_eq

/-! ## The sending side -/

theorem Sender.progress_enter (sender : Sender) (shared : Shared) (phase : Phase) :
    (sender.enter shared phase).2.progress = shared.progress := by
  unfold enter
  split <;> rfl

/-- An outcome, whichever it is, answers one call and settles its events. -/
theorem Sender.progress_record (shared : Shared) (count : Nat) (outcome : Outcome) :
    (Sender.record shared count outcome).progress.linesRead = shared.progress.linesRead ∧
      (Sender.record shared count outcome).progress.eventsParsed = shared.progress.eventsParsed ∧
      (Sender.record shared count outcome).progress.linesMalformed = shared.progress.linesMalformed ∧
      (Sender.record shared count outcome).progress.eventsConsumed = shared.progress.eventsConsumed ∧
      (Sender.record shared count outcome).progress.eventsDelivered +
          (Sender.record shared count outcome).progress.eventsFailed =
        shared.progress.eventsDelivered + shared.progress.eventsFailed + UInt64.ofNat count ∧
      (Sender.record shared count outcome).progress.batchesSent +
          (Sender.record shared count outcome).progress.batchesFailed =
        shared.progress.batchesSent + shared.progress.batchesFailed + 1 := by
  cases outcome with
  | ok response =>
      have swapped (x y z : UInt64) : x + z + y = x + y + z := by ac_rfl
      exact ⟨rfl, rfl, rfl, rfl, swapped _ _ _, swapped _ _ _⟩
  | error fault =>
      exact ⟨rfl, rfl, rfl, rfl, (UInt64.add_assoc _ _ _).symm, (UInt64.add_assoc _ _ _).symm⟩

/-- Nothing is on its way in a sender that has only decided what to do. -/
theorem Sender.nothing_of_placeOf (sender : Sender) (phase : Phase) :
    Sender.uncounted { sender with place := placeOf phase } = 0 ∧
      Sender.unsettled { sender with place := placeOf phase } = 0 ∧
      Sender.unanswered { sender with place := placeOf phase } = 0 := by
  cases phase <;> exact ⟨rfl, rfl, rfl⟩

theorem Sender.uncounted_of_drained (sender : Sender) (events : List Event) :
    Sender.uncounted { sender with place := if events = [] then .ready else .counting events } =
      events.length := by
  by_cases none : events = [] <;> simp [uncounted, none]

theorem Sender.nothing_of_drained (sender : Sender) (events : List Event) :
    Sender.unsettled { sender with place := if events = [] then .ready else .counting events } = 0 ∧
      Sender.unanswered { sender with place := if events = [] then .ready else .counting events } = 0 := by
  by_cases none : events = [] <;> simp [unsettled, unanswered, none]

/-- What a step of the sender keeps: the counts of lines, the events that were counted as consumed or are yet to
be, the events that were settled or are yet to be, and the calls that were answered or are yet to be. -/
structure Sender.Conserves (sender : Sender) (shared : Shared) (after : Sender) (later : Shared) : Prop where
  linesRead : later.progress.linesRead = shared.progress.linesRead
  eventsParsed : later.progress.eventsParsed = shared.progress.eventsParsed
  linesMalformed : later.progress.linesMalformed = shared.progress.linesMalformed
  consumed : later.progress.eventsConsumed + UInt64.ofNat later.queue.depth + UInt64.ofNat after.uncounted =
    shared.progress.eventsConsumed + UInt64.ofNat shared.queue.depth + UInt64.ofNat sender.uncounted
  settled : later.progress.eventsDelivered + later.progress.eventsFailed + UInt64.ofNat after.unsettled +
      UInt64.ofNat later.queue.depth + UInt64.ofNat after.uncounted =
    shared.progress.eventsDelivered + shared.progress.eventsFailed + UInt64.ofNat sender.unsettled +
      UInt64.ofNat shared.queue.depth + UInt64.ofNat sender.uncounted
  answered : later.progress.batchesSent + later.progress.batchesFailed + UInt64.ofNat after.unanswered +
      UInt64.ofNat sender.handed.length =
    shared.progress.batchesSent + shared.progress.batchesFailed + UInt64.ofNat sender.unanswered +
      UInt64.ofNat after.handed.length

/-- A drain moves events from the queue into the hands of the sender, where they are counted before they are
handed over, and settled when their outcome is written down. -/
theorem Sender.Moves.conserves {tuning : Sender.Tuning} {sender after : Sender} {shared later : Shared}
    (moves : sender.Moves tuning shared after later) (fit : after.Fit tuning.maxBatch) :
    sender.Conserves shared after later := by
  cases moves with
  | turned before =>
      constructor <;> simp only [uncounted, unsettled, unanswered, before]
  | @decided _ phase before decision =>
      obtain ⟨uncounted, unsettled, unanswered⟩ := nothing_of_placeOf (sender.enter shared phase).1 phase
      have sameQueue := (frame_enter sender shared phase).1
      have sameProgress := progress_enter sender shared phase
      constructor
      · rw [sameProgress]
      · rw [sameProgress]
      · rw [sameProgress]
      · rw [sameProgress, sameQueue, uncounted, Sender.uncounted, before]
      · rw [sameProgress, sameQueue, uncounted, unsettled, Sender.uncounted, Sender.unsettled, before]
      · rw [sameProgress, unanswered, handed_enter, Sender.unanswered, before]
  | drained before =>
      obtain ⟨unsettled, unanswered⟩ := nothing_of_drained sender (shared.queue.taken tuning.maxBatch)
      have sameProgress := Shared.progress_drain shared tuning.maxBatch
      have whole : UInt64.ofNat shared.queue.depth =
          UInt64.ofNat (shared.queue.drain tuning.maxBatch).depth +
            UInt64.ofNat (shared.queue.taken tuning.maxBatch).length := by
        rw [← UInt64.ofNat_add, Queue.depth_drain, Queue.taken_eq_take, List.length_take,
          ← Fifo.size_eq_length]
        refine congrArg UInt64.ofNat ?_
        unfold Queue.depth
        omega
      constructor
      · rw [sameProgress]
      · rw [sameProgress]
      · rw [sameProgress]
      · rw [sameProgress, Shared.queue_drain, uncounted_of_drained, whole, Sender.uncounted, before]
        simp only [UInt64.reduceOfNat, UInt64.add_zero]
        ac_rfl
      · rw [sameProgress, Shared.queue_drain, uncounted_of_drained, unsettled, whole, Sender.uncounted,
          Sender.unsettled, before]
        simp only [UInt64.reduceOfNat, UInt64.add_zero]
        ac_rfl
      · rw [sameProgress, unanswered, Sender.unanswered, before]
  | @counted events before =>
      constructor
      · rfl
      · rfl
      · rfl
      · simp only [Shared.recordConsumed, Progress.consumed, uncounted, before, UInt64.reduceOfNat,
          UInt64.add_zero]
        ac_rfl
      · simp only [Shared.recordConsumed, Progress.consumed, uncounted, unsettled, before,
          UInt64.reduceOfNat, UInt64.add_zero]
        ac_rfl
      · simp only [Shared.recordConsumed, Progress.consumed, unanswered, before]
  | refused before made => exact fit.elim
  | @offered events batch before made =>
      constructor
      · rfl
      · rfl
      · rfl
      · simp only [uncounted, before]
      · simp only [uncounted, unsettled, before, Batch.size, Batch.events_of_make made]
      · simp only [unanswered, before, List.length_cons, UInt64.ofNat_add, UInt64.reduceOfNat, UInt64.add_zero]
        ac_rfl
  | @recorded count outcome before =>
      have sameQueue := (frame_record shared count outcome).1
      obtain ⟨sameLines, sameParsed, sameMalformed, sameConsumed, settled, answered⟩ :=
        progress_record shared count outcome
      constructor
      · exact sameLines
      · exact sameParsed
      · exact sameMalformed
      · rw [sameConsumed, sameQueue, uncounted, uncounted, before]
      · rw [settled, sameQueue, uncounted, uncounted, unsettled, unsettled, before]
        simp only [UInt64.reduceOfNat, UInt64.add_zero]
      · rw [answered, unanswered, unanswered, before]
        simp only [UInt64.reduceOfNat, UInt64.add_zero]
  | rested before =>
      constructor <;> simp only [uncounted, unsettled, unanswered, before]

theorem Sender.conserves_hear {sender : Sender} {batch : Batch} (shared : Shared) (outcome : Outcome)
    (awaited : sender.place = .awaiting batch) :
    sender.Conserves shared (sender.hear batch outcome) shared := by
  constructor <;> simp only [hear, uncounted, unsettled, unanswered, awaited]

theorem Sender.Conserves.trans {sender after final : Sender} {shared later last : Shared}
    (early : sender.Conserves shared after later) (late : after.Conserves later final last) :
    sender.Conserves shared final last where
  linesRead := late.linesRead.trans early.linesRead
  eventsParsed := late.eventsParsed.trans early.eventsParsed
  linesMalformed := late.linesMalformed.trans early.linesMalformed
  consumed := late.consumed.trans early.consumed
  settled := late.settled.trans early.settled
  answered := by
    have swapped (x y z : UInt64) : x + y + z = x + z + y := by ac_rfl
    rw [← UInt64.add_left_inj (UInt64.ofNat after.handed.length), swapped, late.answered, swapped,
      early.answered, swapped]

theorem Balanced.of_conserves (balanced : Balanced lines state) {sender : Sender} {shared : Shared}
    (conserves : state.sender.Conserves state.shared sender shared) :
    Balanced lines { state with sender := sender, shared := shared } := by
  obtain ⟨lines_eq, parsed_eq, consumed_eq, calls_eq⟩ := balanced
  obtain ⟨sameLines, sameParsed, sameMalformed, consumed, settled, answered⟩ := conserves
  rw [← sameLines, ← sameParsed, ← sameMalformed] at lines_eq
  rw [← consumed, ← sameParsed] at parsed_eq
  have kept : shared.progress.eventsConsumed =
      shared.progress.eventsDelivered + shared.progress.eventsFailed + UInt64.ofNat sender.unsettled := by
    rw [← consumed_eq, ← consumed] at settled
    exact ((UInt64.add_left_inj _).1 ((UInt64.add_left_inj _).1 settled)).symm
  have called : shared.progress.batchesSent + shared.progress.batchesFailed + UInt64.ofNat sender.unanswered =
      UInt64.ofNat sender.handed.length := by
    rw [calls_eq, UInt64.add_comm (UInt64.ofNat state.sender.handed.length)] at answered
    exact (UInt64.add_left_inj _).1 answered
  exact ⟨lines_eq, parsed_eq, kept, called⟩

/-! ## The whole run -/

theorem Course.balanced (accepted : settings.Accepted) (course : Course settings files lines state) :
    Balanced lines state := by
  induction course with
  | start => exact .start settings files
  | read earlier moved ih => exact ih.read earlier.follows (Intake.moves_of_step moved)
  | send earlier moved ih =>
      exact ih.of_conserves ((Sender.moves_of_step moved).conserves ((Course.send earlier moved).fit accepted))
  | hear outcome _ awaited ih => exact ih.of_conserves (Sender.conserves_hear _ outcome awaited)

/-- Nothing is on its way between two counts. -/
structure Settled (state : State) : Prop where
  unclassified : state.intake.held.unclassified = 0
  unpushed : state.intake.held.unpushed = 0
  depth : state.shared.queue.depth = 0
  uncounted : state.sender.uncounted = 0
  unsettled : state.sender.unsettled = 0
  unanswered : state.sender.unanswered = 0

theorem Exhausted.settled (exhausted : Exhausted state) (complete : state.sender.place = .complete) :
    Settled state where
  unclassified := by rw [exhausted.nothing, Intake.Held.unclassified]
  unpushed := by rw [exhausted.nothing, Intake.Held.unpushed]
  depth := by rw [Queue.depth, Fifo.size_eq_length, exhausted.empty, List.length_nil]
  uncounted := by rw [Sender.uncounted, complete]
  unsettled := by rw [Sender.unsettled, complete]
  unanswered := by rw [Sender.unanswered, complete]

/-- The counts of a run agree in every state, with what is on its way between two of them, although each is a
64-bit word that may have gone on from zero. At the end of the run nothing is on its way, and every line of
the files was delivered, or was an event of a batch that failed, or malformed, or blank. -/
theorem Course.counts_agree (accepted : settings.Accepted) (course : Course settings files lines state) :
    Balanced lines state ∧
      (state.sender.place = .complete →
        Settled state ∧
          state.shared.progress.linesRead =
            state.shared.progress.eventsDelivered + state.shared.progress.eventsFailed +
              state.shared.progress.linesMalformed + UInt64.ofNat (blanks (linesOfFiles files))) := by
  have balanced := course.balanced accepted
  refine ⟨balanced, ?_⟩
  intro complete
  obtain ⟨exhausted, all⟩ := course.exhausted_of_complete accepted complete
  have settled := exhausted.settled complete
  refine ⟨settled, ?_⟩
  obtain ⟨lines_eq, parsed_eq, consumed_eq, _⟩ := balanced
  rw [settled.depth, settled.uncounted, settled.unpushed, consumed_eq, settled.unsettled] at parsed_eq
  rw [settled.unclassified, exhausted.nothing, Intake.Held.classified, all, parsed_eq] at lines_eq
  rw [lines_eq]
  simp only [UInt64.reduceOfNat, UInt64.add_zero]

/-- On the way between two counts are an event that was not put into the queue yet, one that waits there,
and one that was drained and not counted since; at the end there is nothing any more. -/
theorem Course.counts_agree_troubledRun :
    Settings.narrow.Accepted ∧
      (∃ lines, Course .narrow troubledFiles lines (troubledRun 36) ∧ Balanced lines (troubledRun 36)) ∧
      (troubledRun 36).intake.held.unpushed = 1 ∧ (troubledRun 36).shared.queue.depth = 1 ∧
      (troubledRun 36).sender.uncounted = 1 ∧
      (troubledRun 36).shared.progress = ⟨6, 36, 4, 1, 1, 0, 1, 0, 1⟩ ∧
      (troubledRun 71).sender.place = .complete ∧ Settled (troubledRun 71) ∧
      blanks (linesOfFiles troubledFiles) = 1 := by
  obtain ⟨lines, course⟩ := exists_course_troubledRun 36
  obtain ⟨later, ended⟩ := exists_course_troubledRun 71
  have complete : (troubledRun 71).sender.place = .complete :=
    Sender.Place.isComplete_iff.1 (by decide +kernel)
  have balanced := (Course.counts_agree Settings.narrow_accepted course).1
  have settled := ((Course.counts_agree Settings.narrow_accepted ended).2 complete).1
  refine ⟨Settings.narrow_accepted, ⟨lines, course, balanced⟩, ?_, ?_, ?_, ?_, complete, settled, ?_⟩
  · decide +kernel
  · decide +kernel
  · decide +kernel
  · decide +kernel
  · decide +kernel

end EventFeed.Flow
