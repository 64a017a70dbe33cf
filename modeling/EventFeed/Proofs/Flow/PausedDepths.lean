import EventFeed.Command.Order
import EventFeed.Proofs.Flow.Stall

/-!
# Depths of a paused queue

A queue that was filled up to the high mark is drained by whole batches while its reader is paused. One of
the depths that these drains leave is the depth of rest. So there is an input on which a run comes to stand
still exactly if one of these depths is too small for a batch and not below the resume mark, and no input
does when the resume mark asks for at least as many events as a batch.
-/

namespace EventFeed.Flow

variable {settings : Settings} {files : List SourceFile} {state : State} {worth most depth mark : Nat}

/-! ## Depths that drains leave -/

/-- The depth of rest is left by the drain behind those that take the depth down to what is worth one. -/
theorem restFrom_eq_sub (waiting : worth ≤ depth) :
    restFrom worth most depth = depth - ((depth - worth) / most + 1) * most := by
  have division : most * ((depth - worth) / most) + (depth - worth) % most = depth - worth :=
    Nat.div_add_mod _ _
  rw [restFrom, Nat.succ_mul, Nat.mul_comm]
  omega

/-- No drain before that one leaves less than what is worth a drain. -/
theorem sub_le_restFrom {drains : Nat} (positive : 0 < most) (waiting : worth ≤ depth)
    (few : depth - drains * most < worth) : depth - drains * most ≤ restFrom worth most depth := by
  have more : (depth - worth) / most < drains := by
    rw [Nat.div_lt_iff_lt_mul positive]
    omega
  have further : ((depth - worth) / most + 1) * most ≤ drains * most := Nat.mul_le_mul_right most more
  rw [restFrom_eq_sub waiting]
  exact Nat.sub_le_sub_left further depth

/-- Drains leave a depth between a mark and what is worth a drain exactly if the depth of rest is one. -/
theorem exists_drains_iff (positive : 0 < most) (sensible : 0 < worth) (waiting : worth ≤ depth) :
    (∃ drains, mark ≤ depth - drains * most ∧ depth - drains * most < worth) ↔
      mark ≤ restFrom worth most depth := by
  constructor
  · rintro ⟨drains, above, few⟩
    exact Nat.le_trans above (sub_le_restFrom positive waiting few)
  · intro above
    refine ⟨(depth - worth) / most + 1, ?_, ?_⟩
    · rw [← restFrom_eq_sub waiting]
      exact above
    · rw [← restFrom_eq_sub waiting]
      exact restFrom_lt depth sensible positive

/-! ## An input with so many events -/

def plainLine : List UInt8 := [0x7B, 0x7D, lineFeed]

def plainBytes (count : Nat) : List UInt8 :=
  (List.replicate count plainLine).flatten

def plainFile (path : Path) (count : Nat) : SourceFile :=
  ⟨path, .readable (plainBytes count) none⟩

theorem linesOfBytes_plainBytes (count : Nat) :
    linesOfBytes (plainBytes count) none = List.replicate count [0x7B, 0x7D] := by
  induction count with
  | zero => exact linesOfBytes_nil none
  | succ count ih =>
      have bytes : plainBytes (count + 1) = 0x7B :: 0x7D :: lineFeed :: plainBytes count := by
        rw [plainBytes, List.replicate_succ, List.flatten_cons]
        rfl
      have present : lineFeed ∈ plainBytes (count + 1) := by
        rw [bytes]
        exact .tail _ (.tail _ (.head _))
      have first : firstLine (plainBytes (count + 1)) = [0x7B, 0x7D] := by
        rw [bytes]
        rfl
      have after : afterFirstLine (plainBytes (count + 1)) = plainBytes count := by
        rw [bytes]
        rfl
      rw [linesOfBytes_of_mem none present, first, after, ih, List.replicate_succ]

theorem isSome_event?_plain (path : Path) (number : Nat) :
    (SourceLine.event? ⟨path, number, [0x7B, 0x7D]⟩).isSome = true := by
  change (SourceLine.event? ⟨⟨[]⟩, 0, [0x7B, 0x7D]⟩).isSome = true
  decide +kernel

theorem length_eventsOf_numberedFrom (path : Path) (count before : Nat) :
    (eventsOf (numberedFrom path before (List.replicate count [0x7B, 0x7D]))).length = count := by
  induction count generalizing before with
  | zero => rfl
  | succ count ih =>
      obtain ⟨event, spelled⟩ := Option.isSome_iff_exists.1 (isSome_event?_plain path (before + 1))
      rw [List.replicate_succ, numberedFrom_cons, eventsOf, List.filterMap_cons_some spelled, List.length_cons]
      exact congrArg (· + 1) (ih (before + 1))

/-- There are as many events as lines. -/
theorem length_eventsOf_plainFile (path : Path) (count : Nat) :
    (eventsOf (linesOfFiles [plainFile path count])).length = count := by
  rw [linesOfFiles, List.flatMap_singleton, linesOfFile]
  show (eventsOf (numberedFrom path 0 (linesOfBytes (plainBytes count) none))).length = count
  rw [linesOfBytes_plainBytes]
  exact length_eventsOf_numberedFrom path count 0

/-! ## Standing still -/

/-- What the sender would decide if it looked now. -/
def State.decision (lowThreshold : Nat) (state : State) : Phase :=
  Phase.decide state.shared.queue.depth state.shared.exhausted lowThreshold

/-- A paused reader, and a sender between two turns that would not send a batch, make a stall. -/
theorem Reachable.stalled_of_unsent (accepted : settings.Accepted) (reached : Reachable settings files state)
    (paused : state.shared.paused = true) (between : state.sender.place.BetweenTurns)
    (unsent : (state.decision settings.lowThreshold).sendsBatch = false) :
    Stalled settings.lowThreshold state := by
  have unfinished := reached.unfinished_of_paused accepted paused
  have requested : state.shared.queue.pauseRequested = true :=
    (reached.regulated accepted).inStep.symm.trans paused
  rw [State.decision, unfinished] at unsent
  exact ⟨unfinished, paused, requested, between, unsent⟩

/-- Some input can bring a run to a stall exactly if the pause lasts at the depth of rest. -/
theorem exists_files_stalled_iff (accepted : settings.Accepted) :
    (∃ files state, Reachable settings files state ∧ Stalled settings.lowThreshold state) ↔
      settings.marks.resume ≤ settings.restDepth := by
  constructor
  · rintro ⟨files, stall⟩
    exact ((exists_stalled_iff accepted files).1 stall).2
  · intro lasting
    have enough := length_eventsOf_plainFile settings.input settings.marks.high
    exact ⟨_, (exists_stalled_iff accepted _).2 ⟨Nat.le_of_eq enough.symm, lasting⟩⟩

/-- A paused queue is not below its resume mark. -/
theorem Reachable.resume_le_of_paused (accepted : settings.Accepted)
    (reached : Reachable settings files state) (paused : state.shared.paused = true) :
    settings.marks.resume ≤ state.shared.queue.depth := by
  obtain ⟨marks_eq, regular, inStep, _⟩ := reached.regulated accepted
  rw [← marks_eq]
  exact (regular.filled (inStep.symm.trans paused)).1

/-- Once the end is reached, a batch is sent of what waits, or the run is complete. -/
theorem State.decision_of_exhausted (lowThreshold : Nat) (ended : state.shared.exhausted = true) :
    (state.decision lowThreshold).sendsBatch = true ∨ state.decision lowThreshold = .complete := by
  rw [State.decision, ended]
  rcases Nat.eq_zero_or_pos state.shared.queue.depth with empty | waiting
  · exact .inr ((Phase.decide_eq_complete_iff _ _ _).2 ⟨empty, rfl⟩)
  · exact .inl ((Phase.sendsBatch_decide_iff _ _ _).2 ⟨waiting, .inl rfl⟩)

/-- With accepted settings there is an input on which the reader comes to be paused while the sender, between
two turns, would not send a batch, exactly if drains of whole batches from the high mark leave a depth that
is not below the resume mark and below the threshold, or none at all. Where the resume mark asks for one
event and for as many as the threshold does, the reader can go on or the sender has something to do,
whatever the input is and whatever the sink says. -/
theorem stands_still_iff_drains (accepted : settings.Accepted) :
    ((∃ files state, Reachable settings files state ∧
          (state.shared.paused = true ∧ state.shared.exhausted = false) ∧ state.sender.place.BetweenTurns ∧
            (state.decision settings.lowThreshold).sendsBatch = false) ↔
        ∃ drains, settings.marks.resume ≤ settings.marks.high - drains * settings.maxBatch ∧
          settings.marks.high - drains * settings.maxBatch < max settings.lowThreshold 1) ∧
      (1 ≤ settings.marks.resume → settings.lowThreshold ≤ settings.marks.resume →
        ∀ files state, Reachable settings files state →
          (state.shared.paused = false ∧ state.shared.exhausted = false) ∨
            (state.decision settings.lowThreshold).sendsBatch = true ∨
              state.decision settings.lowThreshold = .complete) := by
  obtain ⟨_, ⟨positive, _⟩, _⟩ := settings.accepted_iff.1 accepted
  constructor
  · rw [Nat.max_comm, ← Settings.worth,
      exists_drains_iff positive settings.worth_pos (Settings.worth_le_high accepted), ← Settings.restDepth,
      ← exists_files_stalled_iff accepted]
    constructor
    · rintro ⟨files, state, reached, ⟨paused, _⟩, between, unsent⟩
      exact ⟨files, state, reached, reached.stalled_of_unsent accepted paused between unsent⟩
    · rintro ⟨files, state, reached, stalled⟩
      refine ⟨files, state, reached, ⟨stalled.paused, stalled.unfinished⟩, stalled.betweenTurns, ?_⟩
      rw [State.decision, stalled.unfinished]
      exact stalled.unsent
  · intro some low files state reached
    cases ended : state.shared.exhausted with
    | true => exact .inr (state.decision_of_exhausted settings.lowThreshold ended)
    | false =>
        cases paused : state.shared.paused with
        | false => exact .inl ⟨rfl, rfl⟩
        | true =>
            have deep := reached.resume_le_of_paused accepted paused
            right
            left
            rw [State.decision, Phase.sendsBatch_decide_iff]
            exact ⟨Nat.le_trans some deep, .inr (Nat.le_trans low deep)⟩

/-- A resume mark of zero is never undercut, so that the last drain of a full queue, although it is cut short,
does not end the pause. -/
def Settings.bottomless : Settings :=
  { Settings.narrow with maxBatch := 3, marks := ⟨5, 0⟩, lowThreshold := 0 }

/-- What a run is told when nothing but its table is. -/
def Settings.usual : Settings :=
  ⟨Path.ofString "logs", "highstreet", Command.usualBatch, Command.usualMarks, Command.usualThreshold,
    Duration.ofMilliseconds Command.usualRest⟩

/-- With a resume mark of zero two drains lead to a standstill; with the usual settings the reader or the
sender always has something to do. -/
theorem stands_still_iff_drains_bottomless :
    Settings.bottomless.Accepted ∧ Settings.bottomless.marks.resume = 0 ∧
      (∃ files state, Reachable .bottomless files state ∧
        (state.shared.paused = true ∧ state.shared.exhausted = false) ∧ state.sender.place.BetweenTurns ∧
          (state.decision Settings.bottomless.lowThreshold).sendsBatch = false) ∧
      Settings.usual.Accepted ∧
        ∀ files state, Reachable .usual files state →
          (state.shared.paused = false ∧ state.shared.exhausted = false) ∨
            (state.decision Settings.usual.lowThreshold).sendsBatch = true ∨
              state.decision Settings.usual.lowThreshold = .complete := by
  have bottomless : Settings.bottomless.Accepted := by decide +kernel
  have usual : Settings.usual.Accepted := by decide +kernel
  have left : Settings.bottomless.marks.high - 2 * Settings.bottomless.maxBatch = 0 := rfl
  have some : 1 ≤ Settings.usual.marks.resume := by decide
  have low : Settings.usual.lowThreshold ≤ Settings.usual.marks.resume := by decide
  refine ⟨bottomless, rfl, (stands_still_iff_drains bottomless).1.2 ⟨2, ?_⟩, usual, ?_⟩
  · rw [left]
    exact ⟨Nat.zero_le _, Nat.zero_lt_one⟩
  · exact (stands_still_iff_drains usual).2 some low

end EventFeed.Flow
