import EventFeed.Flow.Delivery
import EventFeed.Proofs.Errand
import EventFeed.Proofs.Flow.Practice

/-!
# What a run returns

A run that ends returns a report, or the reason why it was given up. Whatever is wrong with files, lines and
batches goes into the report: the only reason to give up is an input that cannot be listed, and that is found
before anything is read or sent. A run in practice returns, in every world, unless it comes to a stall.
-/

namespace EventFeed.Flow

variable {settings : Settings} {files : List SourceFile} {lines : List SourceLine} {state : State}

/-- The batches that the sink was handed in a run that ended in a state, or before there was one. -/
def handedUntil : Option State → List Batch
  | none => []
  | some state => state.sender.batches

/-! ## Runs in practice -/

/-- A run that has come to a stall, and will never return. -/
inductive Hangs (settings : Settings) : Except SystemFault Found → Option State → Result → Prop where
  | stalled {found : Found} {state : State}
      (reached : Reachable settings (SourceFile.ofFound settings.input found) state)
      (stalled : Stalled settings.lowThreshold state) : Hangs settings (.ok found) (some state) .stalled

section

open MonadAttach

variable {m : Type → Type} [Monad m] [LawfulMonad m] [MonadAttach m] [LawfulMonadAttach m]

/-- A run in practice returns what a run may return, unless it stalls. -/
theorem returns_of_ingest (accepted : settings.Accepted) {sink : Sink m} (answers : sink.Answers)
    {found : Except SystemFault Found} {returned : Option State × Result}
    (returns : CanReturn (ingest settings sink found) returned) :
    (∃ lines, Returns settings found lines returned.1 returned.2) ∨
      Hangs settings found returned.1 returned.2 := by
  cases found with
  | error fault =>
      obtain rfl := LawfulMonadAttach.eq_of_canReturn_pure returns
      exact .inl ⟨[], .unlisted fault⟩
  | ok found =>
      obtain ⟨⟨state, ending⟩, ended, settled⟩ := LawfulMonadAttach.canReturn_bind_imp' returns
      obtain rfl := LawfulMonadAttach.eq_of_canReturn_pure settled
      obtain ⟨reached, tells⟩ := tells_of_proceed accepted answers ended
      obtain ⟨lines, course⟩ := reached.course
      cases ending with
      | complete => exact .inl ⟨lines, .finished course tells⟩
      | aborted refusal => exact .inl ⟨lines, .refused course tells⟩
      | stalled => exact .inr (.stalled reached tells)
      | unfinished => exact tells.elim

end

theorem answers_delivering (base : Url) : (delivering base).Answers := by
  intro batch shared outcome later answered
  obtain ⟨metrics, _, answered⟩ := LawfulMonadAttach.canReturn_bind_imp' answered
  obtain ⟨result, _, answered⟩ := LawfulMonadAttach.canReturn_bind_imp' answered
  obtain ⟨_, _, answered⟩ := LawfulMonadAttach.canReturn_bind_imp' answered
  obtain ⟨_, _, answered⟩ := LawfulMonadAttach.canReturn_bind_imp' answered
  cases LawfulMonadAttach.eq_of_canReturn_pure answered
  rfl

/-- A delivery in a world returns what a run may return, unless it stalls; its state at the end has the calls'
metrics among its own. -/
theorem returns_of_deliver (accepted : settings.Accepted) (base : Url) (found : Except SystemFault Found)
    (world : World) :
    ∃ metrics last result,
      ((deliver settings base found).run world).2 = (last.map fun state => state.withMetrics metrics, result) ∧
        ((∃ lines, Returns settings found lines last result) ∨ Hangs settings found last result) := by
  have came : MonadAttach.CanReturn (deliver settings base found) ((deliver settings base found).run world).2 :=
    Errand.comesTo_runFrom world _ 0
  obtain ⟨⟨⟨last, result⟩, metrics⟩, ingested, settled⟩ := LawfulMonadAttach.canReturn_bind_imp' came
  have same := LawfulMonadAttach.eq_of_canReturn_pure settled
  exact ⟨metrics, last, result, same.symm,
    returns_of_ingest accepted (answers_delivering base) ⟨Metrics.empty, metrics, ingested⟩⟩

/-- With settings whose drains come to rest below the resume mark every delivery returns, whatever the world is
like. -/
theorem exists_returns_of_deliver (accepted : settings.Accepted) (free : settings.restDepth < settings.marks.resume)
    (base : Url) (found : Except SystemFault Found) (world : World) :
    ∃ metrics lines last result,
      ((deliver settings base found).run world).2 = (last.map fun state => state.withMetrics metrics, result) ∧
        Returns settings found lines last result := by
  obtain ⟨metrics, last, result, ran, ⟨lines, returned⟩ | hangs⟩ := returns_of_deliver accepted base found world
  · exact ⟨metrics, lines, last, result, ran, returned⟩
  · cases hangs with
    | stalled reached stalled =>
        exact absurd stalled ((never_stalls_iff accepted _).2 (.inr free) _ reached)

/-! ## What does not end a run -/

/-- With accepted settings the sender never gives up. -/
theorem Reachable.place_ne_aborted (accepted : settings.Accepted) (reached : Reachable settings files state)
    (refusal : Refusal) : state.sender.place ≠ .aborted refusal := by
  intro aborted
  obtain ⟨lines, course⟩ := reached.course
  have fit := course.fit accepted
  rw [Sender.Fit, aborted] at fit
  exact fit

/-- With accepted settings the sender can make a batch of what it is about to hand over. -/
theorem Reachable.make_of_offering (accepted : settings.Accepted) (reached : Reachable settings files state)
    {events : List Event} (offering : state.sender.place = .offering events) :
    ∃ batch, Batch.make settings.table events = .ok batch := by
  obtain ⟨⟨name, named⟩, ⟨_, small⟩, _⟩ := settings.accepted_iff.1 accepted
  obtain ⟨lines, course⟩ := reached.course
  have fit := course.fit accepted
  rw [Sender.Fit, offering] at fit
  exact ⟨_, Batch.make_of_check named fit.1 (Nat.le_trans fit.2 small)⟩

/-- Only an input that cannot be listed makes a run return without a report, and then nothing was read and
nothing handed to the sink. What was drained always goes to the sink as a batch. -/
theorem returns_abort_iff (accepted : settings.Accepted) :
    (∀ found lines last result, Returns settings found lines last result →
      ((∃ abort, result = .aborted abort) ↔ ∃ fault, found = .error fault) ∧
        ∀ abort, result = .aborted abort → lines = [] ∧ handedUntil last = []) ∧
    (∀ fault, ∃ lines last result, Returns settings (.error fault) lines last result) ∧
    (∀ found (answer : Batch → Outcome),
      let returned := ingest (m := Id) settings (fun batch shared => (answer batch, shared)) found
      (∃ lines, Returns settings found lines returned.1 returned.2) ∨
        Hangs settings found returned.1 returned.2) ∧
    ∀ files state, Reachable settings files state →
      (∀ refusal, state.sender.place ≠ .aborted refusal) ∧
        ∀ events, state.sender.place = .offering events →
          ∃ batch, Batch.make settings.table events = .ok batch ∧ batch.events = events ∧
            state.sender.step settings.tuning state.shared =
              some ({ state.sender with place := .awaiting batch, handed := batch :: state.sender.handed },
                state.shared) := by
  refine ⟨?_, ?_, ?_, ?_⟩
  · intro found lines last result returned
    cases returned with
    | unlisted fault => exact ⟨iff_of_true ⟨_, rfl⟩ ⟨fault, rfl⟩, fun _ _ => ⟨rfl, rfl⟩⟩
    | finished course complete =>
        refine ⟨iff_of_false ?_ ?_, ?_⟩
        · rintro ⟨abort, same⟩
          cases same
        · rintro ⟨fault, same⟩
          cases same
        · intro abort same
          cases same
    | refused course aborted => exact absurd aborted (course.reachable.place_ne_aborted accepted _)
  · intro fault
    exact ⟨[], none, _, .unlisted fault⟩
  · intro found answer
    exact returns_of_ingest accepted (answers_of_outcome answer) rfl
  · intro files state reached
    refine ⟨reached.place_ne_aborted accepted, fun events offering => ?_⟩
    obtain ⟨batch, made⟩ := reached.make_of_offering accepted offering
    exact ⟨batch, made, Batch.events_of_make made, Sender.step_of_moves (.offered offering made)⟩

def troubledFound : Found :=
  .directory [
    (Utf8.ofString "c", some (.readable (Utf8.ofString "\x7b\"n\":3\x7d\r\n\x7b\"n\":4\x7d\n\x7b\"n\":5\x7d") none)),
    (Utf8.ofString "b", some (.closed .permissionDenied)),
    (Utf8.ofString "a", some (.readable
      (Utf8.ofString "\x7b\"n\":1\x7d\n \n[\n\x7b\"n\":2\x7d\n\x7b") (some .inputOutput)))]

theorem ofFound_troubledFound : SourceFile.ofFound Settings.narrow.input troubledFound = troubledFiles := by
  have cb : ¬Utf8.ofString "c" ≤ Utf8.ofString "b" := by decide
  have ba : ¬Utf8.ofString "b" ≤ Utf8.ofString "a" := by decide
  unfold SourceFile.ofFound troubledFound SourceFile.named
  simp [List.mergeSort, SourceFile.nameLe, cb, ba]
  rfl

/-- A file that breaks off, one that cannot be opened, a malformed line and a sink that takes no batch: the run
returns a report all the same. -/
theorem returns_abort_iff_troubledRun :
    Settings.narrow.Accepted ∧
      (∃ lines last result, Returns .narrow (.ok troubledFound) lines last result ∧
        (handedUntil last).length = 5 ∧ ¬∃ abort, result = .aborted abort) ∧
      (∃ lines last result, Returns .narrow (.error .noSuchFile) lines last result ∧
        (∃ abort, result = .aborted abort) ∧ lines = [] ∧ handedUntil last = []) := by
  obtain ⟨returned, unlisted, _⟩ := returns_abort_iff Settings.narrow_accepted
  obtain ⟨lines, course⟩ := exists_course_troubledRun 71
  rw [← ofFound_troubledFound] at course
  have complete : (troubledRun 71).sender.place = .complete :=
    Sender.Place.isComplete_iff.1 (by decide +kernel)
  have report := Returns.finished course complete
  have noAbort : ¬∃ abort, _ = Result.aborted abort := fun abort => by
    obtain ⟨fault, same⟩ := (returned _ _ _ _ report).1.1 abort
    cases same
  obtain ⟨read, last, result, unread⟩ := unlisted .noSuchFile
  obtain ⟨iff, nothing⟩ := returned _ _ _ _ unread
  obtain ⟨abort, aborted⟩ := iff.2 ⟨_, rfl⟩
  refine ⟨Settings.narrow_accepted, ⟨lines, _, _, report, ?_, noAbort⟩, read, last, result, unread, ?_⟩
  · decide +kernel
  · exact ⟨⟨abort, aborted⟩, nothing abort aborted⟩

end EventFeed.Flow
