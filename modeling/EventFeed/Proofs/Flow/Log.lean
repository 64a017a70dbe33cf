import EventFeed.Proofs.Flow.Completion

/-!
# The log of a sender

A state does not tell how its sender came to it. A log is kept beside a run and tells what the sender looked
at, what it decided, how often it rested and how many steps it took; and of each batch it handed over, what it
had seen of the end mark when the turn began and how many events the drain had left behind. Nothing in a run
depends on the log.
-/

namespace EventFeed.Flow

variable {tuning : Sender.Tuning} {first state : State}

/-- A batch that was handed to the sink, and how the sender came to it. -/
structure Dispatch where
  batch : Batch
  /-- What the sender saw of the end mark at the beginning of the turn. -/
  seen : Bool
  /-- How many events waited right after the drain. -/
  left : Nat

structure Log where
  /-- What it saw when it last looked at the end mark. -/
  seen : Bool
  /-- How many events waited right after its last drain. -/
  left : Nat
  /-- The batches handed to the sink, latest first. -/
  dispatches : List Dispatch
  /-- The phases it decided on, latest first. -/
  phases : List Phase
  rests : Nat
  steps : Nat

namespace Log

def start : Log := ⟨false, 0, [], [], 0, 0⟩

def note (log : Log) (tuning : Sender.Tuning) (sender : Sender) (shared : Shared) : Log :=
  let log := { log with steps := log.steps + 1 }
  match sender.place with
  | .ready => { log with seen := shared.exhausted }
  | .looking exhausted =>
      { log with phases := Phase.decide shared.queue.depth exhausted tuning.lowThreshold :: log.phases }
  | .taking => { log with left := (shared.queue.drain tuning.maxBatch).depth }
  | .offering events =>
      match Batch.make tuning.table events with
      | .error _ => log
      | .ok batch => { log with dispatches := ⟨batch, log.seen, log.left⟩ :: log.dispatches }
  | .resting => { log with rests := log.rests + 1 }
  | _ => log

def batches (log : Log) : List Batch :=
  (log.dispatches.map Dispatch.batch).reverse

end Log

/-- A run from some state on, with the log that was kept since. -/
inductive Logged (tuning : Sender.Tuning) (first : State) : Log → State → Prop where
  | start : Logged tuning first .start first
  | read {log : Log} {state : State} {intake : Intake} {shared : Shared} (earlier : Logged tuning first log state)
      (moved : state.intake.step state.shared = some (intake, shared)) :
      Logged tuning first log { state with intake := intake, shared := shared }
  | send {log : Log} {state : State} {sender : Sender} {shared : Shared} (earlier : Logged tuning first log state)
      (moved : state.sender.step tuning state.shared = some (sender, shared)) :
      Logged tuning first (log.note tuning state.sender state.shared)
        { state with sender := sender, shared := shared }
  | hear {log : Log} {state : State} {batch : Batch} (outcome : Outcome) (earlier : Logged tuning first log state)
      (awaited : state.sender.place = .awaiting batch) :
      Logged tuning first (log.note tuning state.sender state.shared)
        { state with sender := state.sender.hear batch outcome }

theorem Logged.steps {log : Log} (logged : Logged tuning first log state) : Steps tuning first state := by
  induction logged with
  | start => exact .refl
  | read _ moved ih => exact .tail ih (.read moved)
  | send _ moved ih => exact .tail ih (.send moved)
  | hear outcome _ awaited ih => exact .tail ih (.hear outcome awaited)

/-- A log can be kept of every run. -/
theorem exists_logged (steps : Steps tuning first state) : ∃ log, Logged tuning first log state := by
  induction steps with
  | refl => exact ⟨.start, .start⟩
  | tail _ step ih =>
      obtain ⟨log, logged⟩ := ih
      cases step with
      | read moved => exact ⟨log, .read logged moved⟩
      | send moved => exact ⟨_, .send logged moved⟩
      | hear outcome awaited => exact ⟨_, .hear outcome logged awaited⟩

theorem Log.steps_note (log : Log) (sender : Sender) (shared : Shared) :
    (log.note tuning sender shared).steps = log.steps + 1 := by
  unfold note
  split
  case h_4 events before => split <;> rfl
  all_goals rfl

/-- A sender that took no step is as it was. -/
theorem Logged.sender_eq {log : Log} (logged : Logged tuning first log state) (still : log.steps = 0) :
    state.sender = first.sender := by
  induction logged with
  | start => rfl
  | read _ _ ih => exact ih still
  | send => cases (Log.steps_note _ _ _).symm.trans still
  | hear => cases (Log.steps_note _ _ _).symm.trans still

/-- A step adds a batch to the log when one is made of the events on offer, and only then. -/
theorem Log.dispatches_note (log : Log) (sender : Sender) (shared : Shared) :
    (log.note tuning sender shared).dispatches = log.dispatches ∨
      ∃ events batch, sender.place = .offering events ∧ Batch.make tuning.table events = .ok batch ∧
        (log.note tuning sender shared).dispatches = ⟨batch, log.seen, log.left⟩ :: log.dispatches := by
  cases before : sender.place with
  | offering events =>
      cases made : Batch.make tuning.table events with
      | error refusal => exact .inl (by simp only [note, before, made])
      | ok batch => exact .inr ⟨events, batch, rfl, made, by simp only [note, before, made]⟩
  | _ => exact .inl (by simp only [note, before])

/-- The log tells of every batch that was handed over since. -/
theorem Logged.batches_eq {log : Log} (logged : Logged tuning first log state) :
    state.sender.batches = first.sender.batches ++ log.batches := by
  rw [Sender.batches, Sender.batches, Log.batches, ← List.reverse_append]
  refine congrArg List.reverse ?_
  induction logged with
  | start => rfl
  | read _ _ ih => exact ih
  | @send log state sender shared _ moved ih =>
      cases Sender.moves_of_step moved with
      | turned before => simpa only [Log.note, before] using ih
      | decided before => simpa only [Log.note, before, Sender.handed_enter] using ih
      | drained before => simpa only [Log.note, before] using ih
      | counted before => simpa only [Log.note, before] using ih
      | refused before made => simpa only [Log.note, before, made] using ih
      | @offered _ batch before made =>
          simp only [Log.note, before, made]
          exact congrArg (batch :: ·) ih
      | recorded before => simpa only [Log.note, before] using ih
      | rested before => simpa only [Log.note, before] using ih
  | hear _ _ awaited ih => simpa only [Log.note, awaited, Sender.hear] using ih

/-- Every batch of the log is what its events make. -/
theorem Logged.made {log : Log} (logged : Logged tuning first log state) :
    ∀ dispatch ∈ log.dispatches, Batch.make tuning.table dispatch.batch.events = .ok dispatch.batch := by
  have noted {log : Log} {state : State}
      (ih : ∀ dispatch ∈ log.dispatches, Batch.make tuning.table dispatch.batch.events = .ok dispatch.batch) :
      ∀ dispatch ∈ (log.note tuning state.sender state.shared).dispatches,
        Batch.make tuning.table dispatch.batch.events = .ok dispatch.batch := by
    intro dispatch inside
    rcases log.dispatches_note state.sender state.shared with same | ⟨events, batch, _, made, grown⟩
    · rw [same] at inside
      exact ih dispatch inside
    · rw [grown] at inside
      rcases List.mem_cons.1 inside with rfl | earlier
      · rw [Batch.events_of_make made]
        exact made
      · exact ih dispatch earlier
  induction logged with
  | start => exact nofun
  | read _ _ ih => exact ih
  | send _ _ ih => exact noted ih
  | hear _ _ _ ih => exact noted ih

/-! ## Runs in practice, with their log -/

def Log.advance (tuning : Sender.Tuning) (answer : Batch → Outcome) (log : Log) (state : State) :
    Option (Log × State) :=
  match state.intake.step state.shared with
  | some (intake, shared) => some (log, { state with intake := intake, shared := shared })
  | none =>
      match state.sender.place with
      | .awaiting batch =>
          some (log.note tuning state.sender state.shared,
            { state with sender := state.sender.hear batch (answer batch) })
      | _ =>
          (state.sender.step tuning state.shared).map fun (sender, shared) =>
            (log.note tuning state.sender state.shared, { state with sender := sender, shared := shared })

def Log.proceed (tuning : Sender.Tuning) (answer : Batch → Outcome) : (fuel : Nat) → Log → State → Log × State
  | 0, log, state => (log, state)
  | fuel + 1, log, state =>
      match log.advance tuning answer state with
      | none => (log, state)
      | some (log, state) => log.proceed tuning answer fuel state

theorem Logged.advance {answer : Batch → Outcome} {log later : Log} {next : State}
    (logged : Logged tuning first log state) (moved : log.advance tuning answer state = some (later, next)) :
    Logged tuning first later next := by
  unfold Log.advance at moved
  split at moved
  · rename_i intake shared read
    cases moved
    exact .read logged read
  · split at moved
    · rename_i batch awaited
      cases moved
      exact .hear (answer batch) logged awaited
    · obtain ⟨⟨sender, shared⟩, sent, same⟩ := Option.map_eq_some_iff.1 moved
      cases same
      exact .send logged sent

theorem Logged.proceed (answer : Batch → Outcome) (fuel : Nat) {log : Log}
    (logged : Logged tuning first log state) :
    Logged tuning first (log.proceed tuning answer fuel state).1 (log.proceed tuning answer fuel state).2 := by
  induction fuel generalizing log state with
  | zero => exact logged
  | succ fuel ih =>
      unfold Log.proceed
      split
      · exact logged
      · rename_i later next moved
        exact ih (logged.advance moved)

end EventFeed.Flow
