import EventFeed.Proofs.Flow.Stall

/-!
# Runs in practice

In practice the sender has its turn only when the reader takes no step. What it has seen of the end mark is
then still so when it looks at the depth, and when it comes to rest the reader is paused: the run has stalled.
Everything it does takes away from the work before it, so that a run which may take that many steps comes to
its end or to a stall.
-/

namespace EventFeed.Flow

variable {settings : Settings} {files : List SourceFile} {state next : State}

/-! ## A sender that lets the reader go first -/

/-- What a sender goes by whose reader goes first. -/
def Sender.Place.Patient (lowThreshold : Nat) (shared : Shared) : Sender.Place → Prop
  | .looking exhausted =>
      exhausted = shared.exhausted ∧ (shared.exhausted = true ∨ shared.paused = true)
  | .taking => 0 < shared.queue.depth
  | .resting =>
      shared.exhausted = false ∧ shared.paused = true ∧
        (Phase.decide shared.queue.depth false lowThreshold).sendsBatch = false
  | _ => True

/-- A reader that takes no step is at its end or paused. -/
theorem Reachable.exhausted_or_paused (accepted : settings.Accepted)
    (reached : Reachable settings files state) (halted : state.intake.step state.shared = none) :
    state.shared.exhausted = true ∨ state.shared.paused = true := by
  by_contra neither
  rw [not_or, Bool.not_eq_true, Bool.not_eq_true] at neither
  have unfinished : state.intake.reader.place ≠ .finished := by
    intro finished
    have ended := (reached.aware accepted).exhausted_iff.2 finished
    rw [neither.1] at ended
    cases ended
  obtain ⟨intake, shared, moved⟩ := Intake.exists_step neither.2 unfinished
  rw [halted] at moved
  cases moved

/-- A reader that takes a step is neither at its end nor paused. -/
theorem Reachable.unfinished_of_moved (accepted : settings.Accepted)
    (reached : Reachable settings files state) {intake : Intake} {shared : Shared}
    (moved : state.intake.step state.shared = some (intake, shared)) :
    state.shared.exhausted = false ∧ state.shared.paused = false := by
  have regulated := reached.regulated accepted
  exact ⟨(reached.aware accepted).unfinished (regulated.aligned.unfinished moved), (regulated.running moved).1⟩

/-- A sender goes by the depth that it decides on. -/
theorem Sender.patient_placeOf {lowThreshold : Nat} {shared : Shared}
    (halted : shared.exhausted = true ∨ shared.paused = true) :
    (placeOf (Phase.decide shared.queue.depth shared.exhausted lowThreshold)).Patient lowThreshold shared := by
  cases ended : shared.exhausted with
  | true =>
      by_cases empty : shared.queue.depth = 0
      · rw [(Phase.decide_eq_complete_iff _ _ _).2 ⟨empty, rfl⟩]
        trivial
      · have sends : (Phase.decide shared.queue.depth true lowThreshold).sendsBatch = true :=
          (Phase.sendsBatch_decide_iff _ _ _).2 ⟨Nat.pos_of_ne_zero empty, .inl rfl⟩
        rw [placeOf_of_sendsBatch sends]
        exact Nat.pos_of_ne_zero empty
  | false =>
      cases unsent : (Phase.decide shared.queue.depth false lowThreshold).sendsBatch with
      | true =>
          rw [placeOf_of_sendsBatch unsent]
          exact ((Phase.sendsBatch_decide_iff _ _ _).1 unsent).1
      | false =>
          rw [placeOf_decide_of_unsent unsent]
          exact ⟨ended, halted.resolve_left (by simp [ended]), unsent⟩

theorem Sender.work_placeOf (phase : Phase) : (placeOf phase).work = 0 := by
  cases phase <;> rfl

theorem Sender.Place.Patient.of_frame {lowThreshold : Nat} {shared after : Shared} {place : Sender.Place}
    (sameQueue : after.queue = shared.queue) (samePause : after.paused = shared.paused)
    (sameEnd : after.exhausted = shared.exhausted) (patient : place.Patient lowThreshold shared) :
    place.Patient lowThreshold after := by
  unfold Patient at patient ⊢
  rw [sameQueue, samePause, sameEnd]
  exact patient

/-- The sender's own steps keep to what it goes by, and take away from its work. -/
theorem Sender.Moves.patient {tuning : Sender.Tuning} {sender after : Sender} {shared later : Shared}
    (moves : sender.Moves tuning shared after later) (positive : 0 < tuning.maxBatch)
    (halted : shared.exhausted = true ∨ shared.paused = true) (turning : sender.place ≠ .resting)
    (patient : sender.place.Patient tuning.lowThreshold shared) :
    after.place.Patient tuning.lowThreshold later ∧
      7 * later.queue.depth + after.place.work < 7 * shared.queue.depth + sender.place.work := by
  cases moves with
  | turned before =>
      refine ⟨⟨rfl, halted⟩, ?_⟩
      simp [before, Place.work]
  | @decided exhausted phase before decision =>
      rw [before] at patient
      obtain ⟨rfl, _⟩ := patient
      subst decision
      obtain ⟨sameQueue, samePause, sameEnd⟩ := frame_enter sender shared
        (Phase.decide shared.queue.depth shared.exhausted tuning.lowThreshold)
      refine ⟨(patient_placeOf halted).of_frame sameQueue samePause sameEnd, ?_⟩
      rw [sameQueue, before, work_placeOf]
      exact Nat.lt_succ_self _
  | drained before =>
      rw [before] at patient
      have waiting : 0 < shared.queue.depth := patient
      rw [if_neg (Queue.taken_ne_nil waiting positive), Shared.queue_drain, Queue.depth_drain, before]
      refine ⟨trivial, ?_⟩
      -- One event that leaves the queue pays for the rest of the turn.
      simp only [Place.work]
      omega
  | counted before => exact ⟨trivial, by simp [before, Place.work, Shared.recordConsumed]⟩
  | refused before => exact ⟨trivial, by simp [before, Place.work]⟩
  | offered before => exact ⟨trivial, by simp [before, Place.work]⟩
  | recorded before =>
      refine ⟨trivial, ?_⟩
      rw [(frame_record _ _ _).1, before]
      simp [Place.work]
  | rested before => exact absurd before turning

/-- Whatever a run in practice does keeps to what its sender goes by, and takes away from its work. -/
theorem Reachable.patient_of_move (accepted : settings.Accepted) (reached : Reachable settings files state)
    (patient : state.sender.place.Patient settings.lowThreshold state.shared)
    (moves : state.Proceeds settings.tuning (.move next)) :
    next.sender.place.Patient settings.lowThreshold next.shared ∧ next.work < state.work := by
  cases moves with
  | @read intake shared moved =>
      obtain ⟨unfinished, running⟩ := reached.unfinished_of_moved accepted moved
      have moves := Intake.moves_of_step moved
      have less := moves.work_lt
      have grown := moves.depth_le
      constructor
      · cases place : state.sender.place with
        | looking exhausted =>
            rw [place] at patient
            exact absurd patient.2 (by simp [unfinished, running])
        | resting =>
            rw [place] at patient
            exact absurd patient.2.1 (by simp [running])
        | taking =>
            rw [place] at patient
            exact Nat.lt_of_lt_of_le patient grown
        | ready | counting | offering | awaiting | recording | complete | aborted => trivial
      · -- The reader's step takes eight away, and an event that it pushes brings seven.
        have deeper : shared.queue.depth ≤ state.shared.queue.depth + 1 := by
          rcases moves.frame_or_push with ⟨same, _⟩ | ⟨event, _, _, rfl⟩
          · rw [same]
            exact Nat.le_succ _
          · rw [Shared.queue_push, Queue.depth_push]
        simp only [State.work]
        omega
  | send halted turning moved =>
      have positive : 0 < settings.tuning.maxBatch := (settings.accepted_iff.1 accepted).2.1.1
      obtain ⟨still, less⟩ := (Sender.moves_of_step moved).patient positive
        (reached.exhausted_or_paused accepted halted) turning patient
      refine ⟨still, ?_⟩
      simp only [State.work]
      omega

theorem State.Proceeds.work_hear {tuning : Sender.Tuning} {batch : Batch}
    (calls : state.Proceeds tuning (.call batch)) (outcome : Outcome) :
    State.work { state with sender := state.sender.hear batch outcome } < state.work := by
  cases calls with
  | called halted awaited =>
      simp only [State.work, Sender.hear, awaited, Sender.Place.work]
      omega

/-! ## Where it stops -/

/-- What an ending tells of the state in which a run ends. -/
def Ending.Tells (lowThreshold : Nat) (state : State) : Ending → Prop
  | .complete => state.sender.place = .complete
  | .aborted refusal => state.sender.place = .aborted refusal
  | .stalled => Stalled lowThreshold state
  | .unfinished => False

theorem Reachable.tells_of_stop (accepted : settings.Accepted) (reached : Reachable settings files state)
    (patient : state.sender.place.Patient settings.lowThreshold state.shared) {ending : Ending}
    (stops : state.Proceeds settings.tuning (.stop ending)) : ending.Tells settings.lowThreshold state := by
  cases stops with
  | rested halted resting =>
      rw [resting] at patient
      obtain ⟨unfinished, paused, unsent⟩ := patient
      have requested := (reached.regulated accepted).inStep.symm.trans paused
      exact ⟨unfinished, paused, requested, by rw [resting]; trivial, unsent⟩
  | completed complete => exact complete
  | gaveUp aborted => exact aborted

/-- A run in practice that may take more steps than there is work before it. -/
structure UnderWay (settings : Settings) (files : List SourceFile) (fuel : Nat) (state : State) : Prop where
  reached : Reachable settings files state
  patient : state.sender.place.Patient settings.lowThreshold state.shared
  enough : state.work < fuel

theorem UnderWay.move {fuel : Nat} (accepted : settings.Accepted)
    (underWay : UnderWay settings files (fuel + 1) state)
    (moves : state.Proceeds settings.tuning (.move next)) : UnderWay settings files fuel next := by
  obtain ⟨reached, patient, enough⟩ := underWay
  obtain ⟨still, less⟩ := reached.patient_of_move accepted patient moves
  exact ⟨reached.tail moves.step, still, by omega⟩

theorem UnderWay.call {fuel : Nat} {batch : Batch} (outcome : Outcome)
    (underWay : UnderWay settings files (fuel + 1) state)
    (calls : state.Proceeds settings.tuning (.call batch)) :
    UnderWay settings files fuel { state with sender := state.sender.hear batch outcome } := by
  obtain ⟨reached, _, enough⟩ := underWay
  have less := calls.work_hear outcome
  exact ⟨reached.tail (calls.hear outcome), trivial, by omega⟩

section

open MonadAttach

variable {m : Type → Type} [Monad m] [LawfulMonad m] [MonadAttach m] [LawfulMonadAttach m]

/-- A run in practice that may take as many steps as there is work comes to its end, or to a stall. -/
theorem tells_of_proceed (accepted : settings.Accepted) {sink : Sink m} (answers : sink.Answers)
    {ended : State × Ending}
    (returned : CanReturn ((State.start settings files).proceed settings.tuning sink
      ((State.start settings files).work + 1)) ended) :
    Reachable settings files ended.1 ∧ ended.2.Tells settings.lowThreshold ended.1 := by
  have begun : UnderWay settings files ((State.start settings files).work + 1) (State.start settings files) :=
    ⟨.refl, trivial, Nat.lt_succ_self _⟩
  obtain ⟨left, ⟨reached, patient, enough⟩, stops⟩ := State.exists_of_proceed answers (UnderWay settings files)
    (fun _ _ _ underWay moves => underWay.move accepted moves)
    (fun _ _ _ outcome underWay calls => underWay.call outcome calls) begun returned
  rcases stops with ⟨rfl, _⟩ | stops
  · cases enough
  · exact ⟨reached, reached.tells_of_stop accepted patient stops⟩

end

end EventFeed.Flow
