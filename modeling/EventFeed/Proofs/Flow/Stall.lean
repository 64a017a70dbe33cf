import EventFeed.Proofs.Flow.Turn

/-!
# Stalls

A paused reader waits for a drain, and a sender that finds too few events waits for the reader. A run can
come to that exactly if there are enough events to fill the queue, and if draining the full queue comes to
rest at a depth where the pause goes on.
-/

namespace EventFeed.Flow

variable {settings : Settings} {files : List SourceFile} {lines : List SourceLine} {state next : State}

/-! ## Where drains come to rest -/

/-- The depth that is left after one drain of `most` events behind the other, as long as `worth` events
wait. -/
def restFrom (worth most depth : Nat) : Nat :=
  worth + (depth - worth) % most - most

theorem restFrom_lt {worth most : Nat} (depth : Nat) (sensible : 0 < worth) (positive : 0 < most) :
    restFrom worth most depth < worth := by
  have short := Nat.mod_lt (depth - worth) positive
  unfold restFrom
  omega

/-- One more drain. -/
theorem restFrom_of_more {worth most depth : Nat} (sensible : 0 < worth) (waiting : worth ≤ depth - most) :
    restFrom worth most depth = restFrom worth most (depth - most) := by
  have whole : depth - worth = depth - most - worth + most := by omega
  rw [restFrom, restFrom, whole, Nat.add_mod_right]

/-- The last drain. -/
theorem restFrom_of_last {worth most depth : Nat} (waiting : worth ≤ depth) (few : depth - most < worth) :
    restFrom worth most depth = depth - most := by
  have short : depth - worth < most := by omega
  rw [restFrom, Nat.mod_eq_of_lt short, Nat.add_sub_cancel' waiting]

namespace Settings

/-- How many events are sent before the end is reached: the threshold, but never none. -/
def worth (settings : Settings) : Nat :=
  max 1 settings.lowThreshold

/-- The depth at which the drains of a full queue come to rest. -/
def restDepth (settings : Settings) : Nat :=
  restFrom settings.worth settings.maxBatch settings.marks.high

theorem worth_pos (settings : Settings) : 0 < settings.worth :=
  Nat.le_max_left _ _

theorem sendsBatch_iff_worth_le (settings : Settings) (depth : Nat) :
    (Phase.decide depth false settings.lowThreshold).sendsBatch = true ↔ settings.worth ≤ depth := by
  rw [Phase.sendsBatch_decide_iff, worth, Nat.max_le]
  simp [Nat.succ_le_iff]

theorem worth_le_high (accepted : settings.Accepted) : settings.worth ≤ settings.marks.high := by
  obtain ⟨_, _, apart, low, _⟩ := settings.accepted_iff.1 accepted
  exact Nat.max_le.2 ⟨Nat.zero_lt_of_lt apart, low⟩

end Settings

/-! ## While a pause lasts -/

/-- The queue is on its way from the high mark to the depth of rest, or it is there. -/
def Descending (settings : Settings) (queue : Queue) : Prop :=
  queue.depth = settings.restDepth ∨
    settings.worth ≤ queue.depth ∧
      restFrom settings.worth settings.maxBatch queue.depth = settings.restDepth

theorem Descending.ahead {queue : Queue} (descending : Descending settings queue)
    (positive : 0 < settings.maxBatch) (waiting : settings.worth ≤ queue.depth) :
    restFrom settings.worth settings.maxBatch queue.depth = settings.restDepth := by
  rcases descending with resting | ⟨_, ahead⟩
  · have below := restFrom_lt settings.marks.high settings.worth_pos positive
    rw [resting, Settings.restDepth] at waiting
    exact absurd waiting (Nat.not_le_of_lt below)
  · exact ahead

theorem Descending.restDepth_le {queue : Queue} (descending : Descending settings queue)
    (positive : 0 < settings.maxBatch) : settings.restDepth ≤ queue.depth := by
  rcases descending with resting | ⟨waiting, ahead⟩
  · exact Nat.le_of_eq resting.symm
  · have below := restFrom_lt queue.depth settings.worth_pos positive
    rw [ahead] at below
    exact Nat.le_of_lt (Nat.lt_of_lt_of_le below waiting)

theorem Descending.drain {queue : Queue} (descending : Descending settings queue)
    (positive : 0 < settings.maxBatch) (waiting : settings.worth ≤ queue.depth) :
    Descending settings (queue.drain settings.maxBatch) := by
  have ahead := descending.ahead positive waiting
  unfold Descending
  rw [Queue.depth_drain]
  by_cases more : settings.worth ≤ queue.depth - settings.maxBatch
  · rw [restFrom_of_more settings.worth_pos more] at ahead
    exact .inr ⟨more, ahead⟩
  · rw [restFrom_of_last waiting (Nat.lt_of_not_le more)] at ahead
    exact .inl ahead

/-- A reader that is paused has not finished. -/
theorem Reachable.unfinished_of_paused (accepted : settings.Accepted)
    (reached : Reachable settings files state) (paused : state.shared.paused = true) :
    state.shared.exhausted = false := by
  obtain ⟨_, file, looking⟩ := (reached.regulated accepted).halted paused
  refine (reached.aware accepted).unfinished fun finished => ?_
  rw [looking] at finished
  cases finished

/-- A drain is only ever begun of enough events while the reader has not finished. -/
theorem Reachable.worth_le_of_taking (accepted : settings.Accepted)
    (reached : Reachable settings files state) (unfinished : state.shared.exhausted = false)
    (taking : state.sender.place = .taking) : settings.worth ≤ state.shared.queue.depth := by
  have holds := (reached.aware accepted).holds
  rw [taking] at holds
  exact holds.resolve_left (by simp [unfinished])

theorem Descending.of_full {queue : Queue} (accepted : settings.Accepted)
    (full : queue.depth = settings.marks.high) : Descending settings queue := by
  refine .inr ⟨?_, ?_⟩
  · rw [full]
    exact Settings.worth_le_high accepted
  · rw [full]
    rfl

/-- A pause begins at the high mark, and from there the queue only descends while it lasts. -/
theorem Reachable.descending (accepted : settings.Accepted) (reached : Reachable settings files state)
    (paused : state.shared.paused = true) : Descending settings state.shared.queue := by
  obtain ⟨_, ⟨positive, _⟩, _⟩ := settings.accepted_iff.1 accepted
  induction reached with
  | refl => cases paused
  | @tail state _ earlier step ih =>
      have earlier : Reachable settings files state := earlier
      have regulated := earlier.regulated accepted
      cases step with
      | read moved =>
          have running := (regulated.running moved).1
          rcases (Intake.moves_of_step moved).frame_or_push with ⟨_, samePause⟩ | ⟨event, held, rfl, rfl⟩
          · rw [samePause, running] at paused
            cases paused
          · exact .of_full accepted (regulated.full_of_push running paused)
      | send moved =>
          rcases (Sender.moves_of_step moved).frame_or_drain with ⟨sameQueue, samePause⟩ | ⟨taking, rfl⟩
          · rw [sameQueue]
            exact ih (samePause.symm.trans paused)
          · have before := regulated.inStep.paused_of_drain paused
            have unfinished := earlier.unfinished_of_paused accepted before
            rw [Shared.queue_drain]
            exact (ih before).drain positive (earlier.worth_le_of_taking accepted unfinished taking)
      | hear => exact ih paused

/-- The queue was never deeper than the number of events that came into it. -/
theorem Course.maxDepth_le (accepted : settings.Accepted) (course : Course settings files lines state) :
    state.shared.queue.maxDepth ≤ state.passedOn.length := by
  induction course with
  | start => exact Nat.zero_le _
  | read _ moved ih =>
      rw [State.passedOn, List.length_append] at ih ⊢
      rcases (Intake.moves_of_step moved).frame_or_push with ⟨same, _⟩ | ⟨event, _, _, rfl⟩
      · rw [same]
        exact ih
      · rw [Shared.queue_push, Queue.maxDepth_push, Queue.toList_push, Queue.depth, Fifo.size_eq_length,
          List.length_append]
        simp only [List.length_append, List.length_singleton] at ih ⊢
        omega
  | send earlier moved ih =>
      rw [earlier.passedOn_send accepted moved]
      rcases (Sender.moves_of_step moved).frame_or_drain with ⟨same, _⟩ | ⟨_, rfl⟩
      · rw [same]
        exact ih
      · rw [Shared.queue_drain, Queue.maxDepth_drain]
        exact ih
  | hear outcome _ awaited ih =>
      rw [State.passedOn_hear outcome awaited]
      exact ih

/-- A pause takes as many events as fill the queue. -/
theorem Reachable.high_le_of_paused (accepted : settings.Accepted)
    (reached : Reachable settings files state) (paused : state.shared.paused = true) :
    settings.marks.high ≤ (eventsOf (linesOfFiles files)).length := by
  obtain ⟨lines, course⟩ := reached.course
  obtain ⟨marks_eq, regular, inStep, _⟩ := reached.regulated accepted
  have deep : settings.marks.high ≤ state.shared.queue.maxDepth :=
    marks_eq ▸ regular.peak.2 (regular.filled (inStep.symm.trans paused)).2
  have read := course.passedOn_append_held accepted
  have bounded := course.maxDepth_le accepted
  rw [← course.lines_append_toCome, eventsOf_append, ← read, List.length_append, List.length_append]
  omega

/-! ## Stalls -/

/-- The sender has no drain and no request under way. -/
def Sender.Place.BetweenTurns : Sender.Place → Prop
  | .ready => True
  | .looking _ => True
  | .resting => True
  | _ => False

/-- The reader waits for a drain, and the sender for the reader. -/
structure Stalled (lowThreshold : Nat) (state : State) : Prop where
  unfinished : state.shared.exhausted = false
  paused : state.shared.paused = true
  requested : state.shared.queue.pauseRequested = true
  betweenTurns : state.sender.place.BetweenTurns
  unsent : (Phase.decide state.shared.queue.depth false lowThreshold).sendsBatch = false

theorem Sender.placeOf_decide_of_unsent {depth lowThreshold : Nat}
    (unsent : (Phase.decide depth false lowThreshold).sendsBatch = false) :
    Sender.placeOf (Phase.decide depth false lowThreshold) = .resting := by
  have incomplete : Phase.decide depth false lowThreshold ≠ .complete := by
    intro complete
    have ended := ((Phase.decide_eq_complete_iff _ _ _).1 complete).2
    cases ended
  rw [placeOf, if_neg incomplete, unsent]
  rfl

theorem Stalled.step {tuning : Sender.Tuning} (stalled : Stalled tuning.lowThreshold state)
    (halted : state.intake.Halted) (aware : Aware tuning.lowThreshold state)
    (step : Step tuning state next) : Stalled tuning.lowThreshold next := by
  obtain ⟨unfinished, paused, requested, between, unsent⟩ := stalled
  cases step with
  | read moved =>
      rw [halted.step_eq_none paused] at moved
      cases moved
  | hear outcome awaited =>
      rw [awaited] at between
      exact between.elim
  | send moved =>
      cases Sender.moves_of_step moved with
      | turned => exact ⟨unfinished, paused, requested, trivial, unsent⟩
      | @decided exhausted phase before decision =>
          have unseen : exhausted = false := by
            have holds := aware.holds
            rw [before] at holds
            by_contra seen
            exact absurd (unfinished.symm.trans (holds (by simpa using seen))) nofun
          subst unseen decision
          obtain ⟨sameQueue, samePause, sameEnd⟩ := Sender.frame_enter state.sender state.shared
            (Phase.decide state.shared.queue.depth false tuning.lowThreshold)
          refine ⟨sameEnd.trans unfinished, samePause.trans paused, ?_, ?_, ?_⟩
          · rw [sameQueue]
            exact requested
          · dsimp only
            rw [Sender.placeOf_decide_of_unsent unsent]
            trivial
          · rw [sameQueue]
            exact unsent
      | rested => exact ⟨unfinished, paused, requested, trivial, unsent⟩
      | drained before | counted before | refused before | offered before | recorded before =>
          rw [before] at between
          exact between.elim

/-- A stall lasts: whatever steps follow, the run does not come to its end. -/
theorem Stalled.steps (accepted : settings.Accepted) (reached : Reachable settings files state)
    (stalled : Stalled settings.lowThreshold state) (steps : Steps settings.tuning state next) :
    Stalled settings.lowThreshold next := by
  induction steps with
  | refl => exact stalled
  | tail earlier step ih =>
      have before := reached.steps earlier
      exact ih.step ((before.regulated accepted).halted ih.paused) (before.aware accepted) step

/-- A ready sender that finds enough events drains a batch and is ready again. -/
theorem Reachable.exists_drained (accepted : settings.Accepted) (reached : Reachable settings files state)
    (ready : state.sender.place = .ready) (unfinished : state.shared.exhausted = false)
    (waiting : settings.worth ≤ state.shared.queue.depth) :
    ∃ later, Reachable settings files later ∧ later.sender.place = .ready ∧
      later.shared.queue = state.shared.queue.drain settings.maxBatch := by
  obtain ⟨⟨name, named⟩, ⟨positive, small⟩, _⟩ := settings.accepted_iff.1 accepted
  have sends : (Phase.decide state.shared.queue.depth state.shared.exhausted
      settings.tuning.lowThreshold).sendsBatch = true := by
    rw [unfinished]
    exact (settings.sendsBatch_iff_worth_le _).2 waiting
  obtain ⟨later, steps, again, _, drained, _⟩ :=
    exists_turn (.ok .null) named positive small ready sends
  exact ⟨later, reached.steps steps, again, drained⟩

/-- A run that is paused comes to a stall if the pause still lasts at the depth of rest. -/
theorem Reachable.exists_stalled (accepted : settings.Accepted) (reached : Reachable settings files state)
    (ready : state.sender.place = .ready) (paused : state.shared.paused = true)
    (lasting : settings.marks.resume ≤ settings.restDepth) :
    ∃ later, Reachable settings files later ∧ later.sender.place = .ready ∧
      Stalled settings.lowThreshold later := by
  obtain ⟨_, ⟨positive, _⟩, _⟩ := settings.accepted_iff.1 accepted
  induction left : state.shared.queue.depth using Nat.strong_induction_on generalizing state with
  | _ left ih =>
      have regulated := reached.regulated accepted
      have descending := reached.descending accepted paused
      have unfinished := reached.unfinished_of_paused accepted paused
      have requested : state.shared.queue.pauseRequested = true := regulated.inStep.symm.trans paused
      by_cases waiting : settings.worth ≤ state.shared.queue.depth
      · obtain ⟨later, after, again, drained⟩ :=
          reached.exists_drained accepted ready unfinished waiting
        have above := (descending.drain positive waiting).restDepth_le positive
        have still : later.shared.paused = true := by
          rw [(after.regulated accepted).inStep, drained, Queue.pauseRequested_drain, requested,
            regulated.marks_eq, ← Queue.depth_drain]
          simpa using Nat.le_trans lasting above
        refine ih _ ?_ after again still rfl
        rw [drained, Queue.depth_drain, ← left]
        have sensible := settings.worth_pos
        omega
      · refine ⟨state, reached, ready, unfinished, paused, requested, ?_, ?_⟩
        · rw [ready]
          trivial
        · rw [← Bool.not_eq_true, settings.sendsBatch_iff_worth_le]
          exact waiting

/-- Where a run can come to a stall. -/
theorem exists_stalled_iff (accepted : settings.Accepted) (files : List SourceFile) :
    (∃ state, Reachable settings files state ∧ Stalled settings.lowThreshold state) ↔
      settings.marks.high ≤ (eventsOf (linesOfFiles files)).length ∧
        settings.marks.resume ≤ settings.restDepth := by
  constructor
  · rintro ⟨state, reached, stalled⟩
    obtain ⟨marks_eq, regular, _⟩ := reached.regulated accepted
    have few : ¬settings.worth ≤ state.shared.queue.depth := by
      rw [← settings.sendsBatch_iff_worth_le, Bool.not_eq_true]
      exact stalled.unsent
    have resting : state.shared.queue.depth = settings.restDepth :=
      (reached.descending accepted stalled.paused).resolve_right fun on => few on.1
    have lasting := (regular.filled stalled.requested).1
    rw [marks_eq, resting] at lasting
    exact ⟨reached.high_le_of_paused accepted stalled.paused, lasting⟩
  · rintro ⟨enough, lasting⟩
    rw [← State.ahead_start settings files] at enough
    obtain ⟨full, reached, ready, paused⟩ := Reachable.exists_paused accepted .refl rfl enough
    obtain ⟨state, after, _, stalled⟩ := reached.exists_stalled accepted ready paused lasting
    exact ⟨state, after, stalled⟩

/-- Accepted settings keep a run from stalling exactly if its files have too few events to fill the queue,
or if draining the full queue comes to rest below the resume mark. -/
theorem never_stalls_iff (accepted : settings.Accepted) (files : List SourceFile) :
    (∀ state, Reachable settings files state → ¬Stalled settings.lowThreshold state) ↔
      (eventsOf (linesOfFiles files)).length < settings.marks.high ∨
        settings.restDepth < settings.marks.resume := by
  constructor
  · intro free
    by_contra both
    rw [not_or, Nat.not_lt, Nat.not_lt] at both
    obtain ⟨state, reached, stalled⟩ := (exists_stalled_iff accepted files).2 both
    exact free state reached stalled
  · intro short state reached stalled
    obtain ⟨enough, lasting⟩ := (exists_stalled_iff accepted files).1 ⟨state, reached, stalled⟩
    omega

/-- The queue of a troubled run fills up, and its drains come to rest when nothing waits. -/
theorem never_stalls_narrow :
    Settings.narrow.Accepted ∧ Settings.narrow.restDepth = 0 ∧
      ∀ state, Reachable .narrow troubledFiles state → ¬Stalled Settings.narrow.lowThreshold state := by
  have free : Settings.narrow.restDepth < Settings.narrow.marks.resume := by decide
  exact ⟨Settings.narrow_accepted, rfl,
    (never_stalls_iff Settings.narrow_accepted troubledFiles).2 (.inr free)⟩

/-- One event that waits is too few for a batch, and enough for the pause to go on. -/
def Settings.tight : Settings :=
  { Settings.narrow with lowThreshold := 2 }

def threeEvents : List SourceFile :=
  [⟨Path.ofString "events.json",
    .readable (Utf8.ofString "\x7b\"seq\":0\x7d\n\x7b\"seq\":1\x7d\n\x7b\"seq\":2\x7d\n") none⟩]

/-- A stall with accepted settings: of the two events that fill the queue the sender sends one, and the
other one waits for a third that the paused reader never fetches. -/
theorem tight_stalls :
    Settings.tight.Accepted ∧ ∃ state, Reachable .tight threeEvents state ∧
      state.sender.place = .ready ∧ Stalled Settings.tight.lowThreshold state ∧
      ∀ later, Steps Settings.tight.tuning state later → Stalled Settings.tight.lowThreshold later := by
  have accepted : Settings.tight.Accepted := by decide +kernel
  have enough : Settings.tight.marks.high ≤ (State.start .tight threeEvents).ahead.length := by
    decide +kernel
  have lasting : Settings.tight.marks.resume ≤ Settings.tight.restDepth := by decide
  obtain ⟨full, reached, ready, paused⟩ := Reachable.exists_paused accepted .refl rfl enough
  obtain ⟨state, after, again, stalled⟩ := reached.exists_stalled accepted ready paused lasting
  exact ⟨accepted, state, after, again, stalled, fun later steps => stalled.steps accepted after steps⟩

end EventFeed.Flow
