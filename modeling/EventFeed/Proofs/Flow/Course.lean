import EventFeed.Flow.Course
import EventFeed.Proofs.Flow.Moves

/-!
# Courses and steps

The states of courses are the states that `Step` reaches, and a run in practice follows one course. What was
read on a course and what is still to come are the lines of the files.
-/

namespace EventFeed.Flow

variable {settings : Settings} {files : List SourceFile} {lines : List SourceLine} {state : State}

theorem Course.reachable (course : Course settings files lines state) : Reachable settings files state := by
  induction course with
  | start => exact .refl
  | read _ moved ih => exact .tail ih (.read moved)
  | send _ moved ih => exact .tail ih (.send moved)
  | hear outcome _ awaited ih => exact .tail ih (.hear outcome awaited)

theorem Reachable.steps {next : State} (reached : Reachable settings files state)
    (steps : Steps settings.tuning state next) : Reachable settings files next :=
  Relation.ReflTransGen.trans reached steps

/-- Every state that is reached is reached on a course. -/
theorem Reachable.course (reached : Reachable settings files state) :
    ∃ lines, Course settings files lines state := by
  induction reached with
  | refl => exact ⟨[], .start⟩
  | tail _ step ih =>
      obtain ⟨lines, course⟩ := ih
      cases step with
      | read moved => exact ⟨_, .read course moved⟩
      | send moved => exact ⟨lines, .send course moved⟩
      | hear outcome awaited => exact ⟨lines, .hear outcome course awaited⟩

/-! ## Runs in practice -/

/-- What a run in practice may do next: the sender has its turn when the reader takes no step. -/
inductive State.Proceeds (tuning : Sender.Tuning) (state : State) : Next → Prop where
  | read {intake : Intake} {shared : Shared} (moved : state.intake.step state.shared = some (intake, shared)) :
      Proceeds tuning state (.move { state with intake := intake, shared := shared })
  | send {sender : Sender} {shared : Shared} (halted : state.intake.step state.shared = none)
      (turning : state.sender.place ≠ .resting)
      (moved : state.sender.step tuning state.shared = some (sender, shared)) :
      Proceeds tuning state (.move { state with sender := sender, shared := shared })
  | called {batch : Batch} (halted : state.intake.step state.shared = none)
      (awaited : state.sender.place = .awaiting batch) : Proceeds tuning state (.call batch)
  | rested (halted : state.intake.step state.shared = none) (resting : state.sender.place = .resting) :
      Proceeds tuning state (.stop .stalled)
  | completed (complete : state.sender.place = .complete) : Proceeds tuning state (.stop .complete)
  | gaveUp {refusal : Refusal} (aborted : state.sender.place = .aborted refusal) :
      Proceeds tuning state (.stop (.aborted refusal))

/-- A sender goes on unless it waits for the sink or has come to an end. -/
theorem Sender.place_of_step_eq_none {tuning : Sender.Tuning} {sender : Sender} {shared : Shared}
    (still : sender.step tuning shared = none) :
    (∃ batch, sender.place = .awaiting batch) ∨ sender.place = .complete ∨
      ∃ refusal, sender.place = .aborted refusal := by
  cases place : sender.place with
  | awaiting batch => exact .inl ⟨batch, rfl⟩
  | complete => exact .inr (.inl rfl)
  | aborted refusal => exact .inr (.inr ⟨refusal, rfl⟩)
  | offering events =>
      simp only [step, place] at still
      split at still <;> cases still
  | ready | looking | taking | counting | recording | resting => simp [step, place] at still

theorem State.proceeds_next (tuning : Sender.Tuning) (state : State) :
    state.Proceeds tuning (state.next tuning) := by
  unfold next
  split
  · rename_i intake shared moved
    exact .read moved
  · rename_i halted
    split
    · rename_i batch awaited
      exact .called halted awaited
    · rename_i resting
      exact .rested halted resting
    · rename_i complete
      exact .completed complete
    · rename_i refusal aborted
      exact .gaveUp aborted
    · rename_i unawaited turning incomplete unaborted
      split
      · rename_i sender shared moved
        exact .send halted turning moved
      · rename_i still
        rcases Sender.place_of_step_eq_none still with ⟨batch, awaited⟩ | complete | ⟨refusal, aborted⟩
        · exact absurd awaited (unawaited batch)
        · exact absurd complete incomplete
        · exact absurd aborted (unaborted refusal)

theorem State.Proceeds.step {tuning : Sender.Tuning} {next : State}
    (moves : state.Proceeds tuning (.move next)) : Step tuning state next := by
  cases moves with
  | read moved => exact .read moved
  | send halted turning moved => exact .send moved

theorem State.Proceeds.hear {tuning : Sender.Tuning} {batch : Batch}
    (calls : state.Proceeds tuning (.call batch)) (outcome : Outcome) :
    Step tuning state { state with sender := state.sender.hear batch outcome } := by
  cases calls with
  | called halted awaited => exact .hear outcome awaited

section

open MonadAttach

variable {m : Type → Type} [Monad m] [LawfulMonad m] [MonadAttach m] [LawfulMonadAttach m]

/-- The sink leaves the common ground as it is. -/
def Sink.Answers (sink : Sink m) : Prop :=
  ∀ batch shared outcome later, CanReturn (sink batch shared) (outcome, later) → later = shared

/-- What holds before a run in practice, given the steps that it may take, and is kept by all it does, holds
where it stops. It stops at an end, or when it may take no more steps. -/
theorem State.exists_of_proceed {tuning : Sender.Tuning} {sink : Sink m} (answers : sink.Answers)
    (Inv : Nat → State → Prop)
    (moves : ∀ fuel state next, Inv (fuel + 1) state → state.Proceeds tuning (.move next) → Inv fuel next)
    (calls : ∀ fuel state batch outcome, Inv (fuel + 1) state → state.Proceeds tuning (.call batch) →
      Inv fuel { state with sender := state.sender.hear batch outcome })
    {fuel : Nat} {ended : State × Ending} (begun : Inv fuel state)
    (returned : CanReturn (state.proceed tuning sink fuel) ended) :
    ∃ left, Inv left ended.1 ∧
      (left = 0 ∧ ended.2 = .unfinished ∨ ended.1.Proceeds tuning (.stop ended.2)) := by
  induction fuel generalizing state with
  | zero =>
      obtain rfl := LawfulMonadAttach.eq_of_canReturn_pure returned
      exact ⟨0, begun, .inl ⟨rfl, rfl⟩⟩
  | succ fuel ih =>
      have proceeds := state.proceeds_next tuning
      unfold proceed at returned
      split at returned
      · rename_i next moved
        exact ih (moves fuel state next begun (moved ▸ proceeds)) returned
      · rename_i batch called
        obtain ⟨⟨outcome, shared⟩, answered, returned⟩ := LawfulMonadAttach.canReturn_bind_imp' returned
        obtain rfl := answers batch state.shared outcome shared answered
        exact ih (calls fuel state batch outcome begun (called ▸ proceeds)) returned
      · rename_i ending stopped
        obtain rfl := LawfulMonadAttach.eq_of_canReturn_pure returned
        exact ⟨fuel + 1, begun, .inr (stopped ▸ proceeds)⟩

/-- A run in practice comes to states that are reached. -/
theorem Reachable.of_proceed {sink : Sink m} (answers : sink.Answers) {fuel : Nat} {ended : State × Ending}
    (reached : Reachable settings files state)
    (returned : CanReturn (state.proceed settings.tuning sink fuel) ended) :
    Reachable settings files ended.1 := by
  obtain ⟨_, kept, _⟩ := State.exists_of_proceed answers (fun _ => Reachable settings files)
    (fun _ _ _ reached moves => reached.tail moves.step)
    (fun _ _ _ outcome reached calls => reached.tail (calls.hear outcome)) reached returned
  exact kept

end

theorem answers_of_outcome (answer : Batch → Outcome) :
    Sink.Answers (m := Id) fun batch shared => (answer batch, shared) := by
  intro batch shared outcome later answered
  cases answered
  rfl

theorem Course.proceed (answer : Batch → Outcome) (fuel : Nat) (course : Course settings files lines state) :
    ∃ later, Course settings files later
      (state.proceed (m := Id) settings.tuning (fun batch shared => (answer batch, shared)) fuel).1 :=
  (course.reachable.of_proceed (answers_of_outcome answer) rfl).course

/-! ## A troubled run

The samples of the later modules: a queue for two events, a file that breaks off, one that cannot be
opened and one without trouble, and a sink that takes no batch.
-/

def Settings.narrow : Settings :=
  ⟨Path.ofString "logs", "highstreet", 1, ⟨2, 1⟩, 1, ⟨0, 50000000⟩⟩

def troubledFiles : List SourceFile :=
  [⟨Path.ofString "logs/a", .readable
      (Utf8.ofString "\x7b\"n\":1\x7d\n \n[\n\x7b\"n\":2\x7d\n\x7b") (some .inputOutput)⟩,
    ⟨Path.ofString "logs/b", .closed .permissionDenied⟩,
    ⟨Path.ofString "logs/c", .readable
      (Utf8.ofString "\x7b\"n\":3\x7d\r\n\x7b\"n\":4\x7d\n\x7b\"n\":5\x7d") none⟩]

def troubledRun (fuel : Nat) : State :=
  ((State.start .narrow troubledFiles).proceed (m := Id) Settings.narrow.tuning
    (fun _ shared => (.error (.rejected "full"), shared)) fuel).1

theorem exists_course_troubledRun (fuel : Nat) :
    ∃ lines, Course .narrow troubledFiles lines (troubledRun fuel) :=
  Course.start.proceed (fun _ => .error (.rejected "full")) fuel

theorem Settings.narrow_accepted : Settings.narrow.Accepted := by decide +kernel

/-! ## Lines on a course -/

theorem Reader.Moves.toCome {reader next : Reader} {shared after : Shared} {handed : Option SourceLine}
    (moves : reader.Moves shared next after handed) : reader.toCome = handed.toList ++ next.toCome := by
  cases moves with
  | ended between last => simp [Reader.toCome, between, last, linesOfFiles]
  | passedOver between waiting content =>
      simp [Reader.toCome, Reader.giveUp, between, waiting, linesOfFiles, linesOfFile, content]
  | opened between waiting content =>
      simp [Reader.toCome, between, waiting, linesOfFiles, linesOfFile, content, OpenFile.toCome]
  | looked before open_ => simp [Reader.toCome, before]
  | handedOver before found => simp [Reader.toCome, before, OpenFile.toCome_of_line found]
  | finished before found =>
      simp [Reader.toCome, Reader.finish, Reader.close, before, OpenFile.toCome,
        OpenFile.read_endOfFile found, numberedFrom]
  | failed before found =>
      simp [Reader.toCome, Reader.giveUp, Reader.close, before, OpenFile.toCome,
        OpenFile.read_fault found, numberedFrom]

theorem Intake.Moves.toCome {intake next : Intake} {shared after : Shared} {fetched : Option SourceLine}
    (moves : intake.Moves shared next after fetched) :
    intake.reader.toCome = fetched.toList ++ next.reader.toCome := by
  cases moves with
  | parsed => rfl
  | blank => rfl
  | malformed => rfl
  | pushed => rfl
  | read held moved => exact moved.toCome

/-- The lines that were read, and the lines to come, are the lines of the files. -/
theorem Course.lines_append_toCome (course : Course settings files lines state) :
    lines ++ state.intake.reader.toCome = linesOfFiles files := by
  induction course with
  | start => rfl
  | read _ moved ih => rw [List.append_assoc, ← (Intake.moves_of_step moved).toCome, ih]
  | send _ _ ih => exact ih
  | hear _ _ _ ih => exact ih

end EventFeed.Flow
