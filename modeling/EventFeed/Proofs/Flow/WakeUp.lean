import EventFeed.Flow.Gate
import Mathlib.Data.List.Induction

/-!
# No opening is missed

The steps at a gate come in any order: those of the ones who shut and open it, and those of any number of
waiters, each of which may be overtaken between taking its ticket and looking at the flag, and may give up
at any time. A waiter that nobody will wake stands at a gate that is shut.
-/

namespace EventFeed.Flow.Gate

variable {gate : Gate} {waiter : Waiter} {act : Act} {acts : List Act} {index : Nat}

/-! ## Steps at a gate -/

inductive Act where
  | pause
  | clear
  | notify
  | join
  | takeTicket (index : Nat)
  | look (index : Nat)
  | leave (index : Nat)
  deriving DecidableEq, Repr

/-- The gate after a step. Only an opening that has cleared the flag honours tickets. -/
def after (gate : Gate) : Act → Gate
  | .pause => gate.pause
  | .clear => gate.clear
  | .notify => if 0 < gate.opening then gate.notify else gate
  | .join => gate.join
  | .takeTicket index => gate.change index takeTicket
  | .look index => gate.change index (look gate.shut)
  | .leave index => gate.change index leave

def run (gate : Gate) (acts : List Act) : Gate :=
  acts.foldl after gate

/-- What a step makes of the waiter with a number. -/
def fate (gate : Gate) (index : Nat) : Act → Waiter → Waiter
  | .notify => if 0 < gate.opening then honour else id
  | .takeTicket other => if other = index then takeTicket else id
  | .look other => if other = index then look gate.shut else id
  | .leave other => if other = index then leave else id
  | _ => id

theorem run_append (gate : Gate) (first second : List Act) :
    gate.run (first ++ second) = (gate.run first).run second :=
  List.foldl_append

theorem run_cons (gate : Gate) (act : Act) (acts : List Act) :
    gate.run (act :: acts) = (gate.after act).run acts :=
  rfl

theorem run_concat (gate : Gate) (acts : List Act) (act : Act) :
    gate.run (acts ++ [act]) = (gate.run acts).after act :=
  run_append gate acts [act]

theorem waiter_change (gate : Gate) (other index : Nat) (step : Waiter → Waiter) :
    (gate.change other step).waiters[index]? =
      gate.waiters[index]?.map (if other = index then step else id) := by
  rw [change, List.getElem?_modify]
  split <;> rfl

/-- A step does to a waiter what it does, and another waiter may come. -/
theorem waiter_after (gate : Gate) (act : Act) (index : Nat) :
    (gate.after act).waiters[index]? = gate.waiters[index]?.map (gate.fate index act) ∨
      gate.waiters[index]? = none ∧ (gate.after act).waiters[index]? = some .fresh := by
  cases act with
  | pause => exact .inl Option.map_id'.symm
  | clear => exact .inl Option.map_id'.symm
  | notify =>
      left
      simp only [after, fate]
      split
      · exact List.getElem?_map
      · exact Option.map_id'.symm
  | join =>
      rcases Nat.lt_trichotomy index gate.waiters.length with before | here | beyond
      · left
        simp [after, join, fate, List.getElem?_append_left before]
      · right
        simp [after, join, here]
      · left
        have absent : gate.waiters[index]? = none := List.getElem?_eq_none (Nat.le_of_lt beyond)
        have longer : (gate.waiters ++ [Waiter.fresh]).length ≤ index := by
          rw [List.length_append]
          exact beyond
        rw [absent, after, join, List.getElem?_eq_none longer]
        rfl
  | takeTicket other => exact .inl (gate.waiter_change other index takeTicket)
  | look other => exact .inl (gate.waiter_change other index (look gate.shut))
  | leave other => exact .inl (gate.waiter_change other index leave)

inductive Moves (gate : Gate) (index : Nat) : Act → Waiter → Waiter → Prop where
  | stayed {act : Act} {waiter : Waiter} (idle : act = .notify → ¬ 0 < gate.opening) :
      Moves gate index act waiter waiter
  | honoured {waiter : Waiter} (opening : 0 < gate.opening) : Moves gate index .notify waiter (honour waiter)
  | tookTicket {waiter : Waiter} : Moves gate index (.takeTicket index) waiter (takeTicket waiter)
  | looked {waiter : Waiter} : Moves gate index (.look index) waiter (look gate.shut waiter)
  | left {waiter : Waiter} : Moves gate index (.leave index) waiter (leave waiter)

theorem moves_fate (gate : Gate) (index : Nat) (act : Act) (waiter : Waiter) :
    gate.Moves index act waiter (gate.fate index act waiter) := by
  cases act with
  | pause => exact .stayed nofun
  | clear => exact .stayed nofun
  | join => exact .stayed nofun
  | notify =>
      rw [fate]
      split
      · rename_i opening
        exact .honoured opening
      · rename_i idle
        exact .stayed fun _ => idle
  | takeTicket other =>
      rw [fate]
      split
      · rename_i same
        rw [same]
        exact .tookTicket
      · exact .stayed nofun
  | look other =>
      rw [fate]
      split
      · rename_i same
        rw [same]
        exact .looked
      · exact .stayed nofun
  | leave other =>
      rw [fate]
      split
      · rename_i same
        rw [same]
        exact .left
      · exact .stayed nofun

/-- Who is there after a step has just come, or was there before. -/
theorem cases_of_after {later : Waiter} (found : (gate.after act).waiters[index]? = some later) :
    later = .fresh ∨ ∃ waiter, gate.waiters[index]? = some waiter ∧ gate.Moves index act waiter later := by
  rcases gate.waiter_after act index with same | ⟨_, came⟩
  · right
    rw [same, Option.map_eq_some_iff] at found
    obtain ⟨waiter, was, rfl⟩ := found
    exact ⟨waiter, was, gate.moves_fate index act waiter⟩
  · left
    rw [came] at found
    exact (Option.some.inj found).symm

theorem waiter_after_of_found (found : gate.waiters[index]? = some waiter) :
    (gate.after act).waiters[index]? = some (gate.fate index act waiter) := by
  rcases gate.waiter_after act index with same | ⟨absent, _⟩
  · rw [same, found]
    rfl
  · rw [found] at absent
    cases absent

/-! ## Waiting for a reason -/

/-- Who waits for a ticket that was not honoured waits for a reason: the gate is shut, or an opening has yet
to honour tickets. -/
def Attended (gate : Gate) : Prop :=
  ∀ index : Nat, gate.waiters[index]? = some (.waiting false) → gate.shut = true ∨ 0 < gate.opening

theorem honour_ne_waiting (waiter : Waiter) : honour waiter ≠ .waiting false := by
  cases waiter <;> simp [honour]

theorem waiting_of_takeTicket (eq : takeTicket waiter = .waiting false) : waiter = .waiting false := by
  cases waiter with
  | waiting honoured => cases honoured <;> simp_all [takeTicket]
  | _ => cases eq

theorem leave_ne_waiting (waiter : Waiter) : leave waiter ≠ .waiting false := by
  cases waiter <;> simp [leave]

/-- A waiter begins to wait only when it looks at the flag of a shut gate. -/
theorem waiting_of_look {shut : Bool} (eq : look shut waiter = .waiting false) :
    shut = true ∨ waiter = .waiting false := by
  cases waiter with
  | ticketed honoured => cases shut <;> simp_all [look]
  | waiting honoured => exact .inr eq
  | _ => cases eq

theorem attended_new : new.Attended := by
  intro index found
  cases found

theorem Attended.after (attended : gate.Attended) (act : Act) : (gate.after act).Attended := by
  intro index found
  generalize state : Waiter.waiting false = later at found
  rcases cases_of_after found with came | ⟨waiter, was, moves⟩
  · rw [came] at state
    cases state
  cases moves with
  | stayed idle =>
      rw [← state] at was
      have reason := attended index was
      cases act with
      | pause => exact .inl rfl
      | clear => exact .inr (Nat.succ_pos _)
      | notify =>
          rw [Gate.after, if_neg (idle rfl)]
          exact reason
      | _ => exact reason
  | honoured => exact absurd state.symm (honour_ne_waiting waiter)
  | tookTicket => exact attended index (by rw [was, waiting_of_takeTicket state.symm])
  | looked =>
      rcases waiting_of_look state.symm with shut | waits
      · exact .inl shut
      · exact attended index (by rw [was, waits])
  | left => exact absurd state.symm (leave_ne_waiting waiter)

theorem Attended.run (attended : gate.Attended) (acts : List Act) : (gate.run acts).Attended := by
  induction acts generalizing gate with
  | nil => exact attended
  | cons act acts hypothesis => exact hypothesis (attended.after act)

/-! ## Passing -/

theorem passed_of_honour (eq : honour waiter = .passed) : waiter = .passed := by
  cases waiter with
  | passed => rfl
  | _ => cases eq

theorem passed_of_takeTicket (eq : takeTicket waiter = .passed) : waiter = .passed := by
  cases waiter with
  | passed => rfl
  | waiting honoured => cases honoured <;> cases eq
  | _ => cases eq

theorem passed_of_leave (eq : leave waiter = .passed) : waiter = .passed := by
  cases waiter with
  | passed => rfl
  | _ => cases eq

theorem passed_of_look {shut : Bool} (eq : look shut waiter = .passed) :
    waiter = .passed ∨ shut = false ∧ ∃ honoured, waiter = .ticketed honoured := by
  cases waiter with
  | passed => exact .inl rfl
  | ticketed honoured =>
      cases shut with
      | true => cases eq
      | false => exact .inr ⟨rfl, honoured, rfl⟩
  | _ => cases eq

/-- A waiter passes only in a step in which it looks at the flag of an open gate, with a ticket in hand. -/
theorem passed_after (found : (gate.after act).waiters[index]? = some .passed) :
    gate.waiters[index]? = some .passed ∨
      act = .look index ∧ gate.shut = false ∧ ∃ honoured, gate.waiters[index]? = some (.ticketed honoured) := by
  generalize state : Waiter.passed = later at found
  rcases cases_of_after found with came | ⟨waiter, was, moves⟩
  · rw [came] at state
    cases state
  rw [was]
  cases moves with
  | stayed => exact .inl rfl
  | honoured => exact .inl (by rw [← state, passed_of_honour state.symm])
  | tookTicket => exact .inl (by rw [← state, passed_of_takeTicket state.symm])
  | looked =>
      rcases passed_of_look state.symm with before | ⟨isOpen, honoured, ticketed⟩
      · exact .inl (by rw [← state, before])
      · exact .inr ⟨rfl, isOpen, honoured, by rw [ticketed]⟩
  | left => exact .inl (by rw [← state, passed_of_leave state.symm])

/-- Who has passed has looked at the flag of an open gate, and has passed then. -/
theorem looked_of_passed (found : (new.run acts).waiters[index]? = some .passed) :
    ∃ before honoured later, acts = before ++ .look index :: later ∧ (new.run before).shut = false ∧
      (new.run before).waiters[index]? = some (.ticketed honoured) := by
  induction acts using List.reverseRecOn with
  | nil => cases found
  | append_singleton acts act hypothesis =>
      rw [run_concat] at found
      rcases passed_after found with earlier | ⟨rfl, isOpen, honoured, was⟩
      · obtain ⟨before, honoured, later, eq, isOpen, was⟩ := hypothesis earlier
        exact ⟨before, honoured, later ++ [act], by rw [eq, List.append_assoc, List.cons_append], isOpen, was⟩
      · exact ⟨acts, honoured, [], rfl, isOpen, was⟩

/-! ## An open gate -/

/-- How many steps a waiter is away from passing an open gate. One that has to be woken, or that left, is
further away than any other. -/
def distance : Waiter → Nat
  | .passed => 0
  | .ticketed _ => 1
  | .fresh => 2
  | .waiting true => 2
  | .waiting false => 3
  | .dropped => 3

theorem eq_passed_of_distance (near : distance waiter ≤ 0) : waiter = .passed := by
  cases waiter with
  | passed => rfl
  | waiting honoured => cases honoured <;> cases near
  | _ => cases near

theorem distance_honour_le (waiter : Waiter) : distance (honour waiter) ≤ distance waiter := by
  cases waiter with
  | waiting honoured => cases honoured <;> decide
  | _ => exact Nat.le_refl _

theorem distance_takeTicket_le (waiter : Waiter) : distance (takeTicket waiter) ≤ distance waiter := by
  cases waiter with
  | waiting honoured => cases honoured <;> decide
  | fresh => decide
  | _ => exact Nat.le_refl _

theorem distance_look_le (waiter : Waiter) : distance (look false waiter) ≤ distance waiter := by
  cases waiter with
  | ticketed honoured => exact Nat.zero_le _
  | _ => exact Nat.le_refl _

theorem distance_takeTicket (near : distance waiter ≤ 2) : distance (takeTicket waiter) ≤ 1 := by
  cases waiter with
  | waiting honoured => cases honoured <;> revert near <;> decide
  | dropped => exact absurd near (by decide)
  | passed => exact Nat.zero_le _
  | _ => exact Nat.le_refl _

theorem distance_look (near : distance waiter ≤ 1) : distance (look false waiter) ≤ 0 := by
  cases waiter with
  | waiting honoured => cases honoured <;> exact absurd near (by decide)
  | ticketed honoured => exact Nat.le_refl _
  | passed => exact Nat.le_refl _
  | _ => exact absurd near (by decide)

/-- A waiter with a number stands at an open gate, at most so many steps away from passing. -/
def Within (gate : Gate) (index steps : Nat) : Prop :=
  gate.shut = false ∧ ∃ waiter, gate.waiters[index]? = some waiter ∧ distance waiter ≤ steps

theorem shut_after (isOpen : gate.shut = false) (calm : act ≠ .pause) : (gate.after act).shut = false := by
  cases act with
  | pause => exact absurd rfl calm
  | clear => rfl
  | notify =>
      simp only [after]
      split
      · exact isOpen
      · exact isOpen
  | _ => exact isOpen

/-- Nobody loses ground at a gate that stays open. -/
theorem Within.after {steps : Nat} (within : gate.Within index steps) (calm : act ≠ .pause)
    (stays : act ≠ .leave index) : (gate.after act).Within index steps := by
  obtain ⟨isOpen, waiter, found, near⟩ := within
  refine ⟨shut_after isOpen calm, _, waiter_after_of_found found, Nat.le_trans ?_ near⟩
  have moves := gate.moves_fate index act waiter
  generalize gate.fate index act waiter = later at moves
  cases moves with
  | stayed => exact Nat.le_refl _
  | honoured => exact distance_honour_le waiter
  | tookTicket => exact distance_takeTicket_le waiter
  | looked =>
      rw [isOpen]
      exact distance_look_le waiter
  | left => exact absurd rfl stays

theorem Within.run {steps : Nat} (within : gate.Within index steps) (calm : .pause ∉ acts)
    (stays : .leave index ∉ acts) : (gate.run acts).Within index steps := by
  induction acts generalizing gate with
  | nil => exact within
  | cons act acts hypothesis =>
      rw [List.mem_cons, not_or] at calm stays
      exact hypothesis (within.after (Ne.symm calm.1) (Ne.symm stays.1)) calm.2 stays.2

theorem Within.takeTicket (within : gate.Within index 2) : (gate.after (.takeTicket index)).Within index 1 := by
  obtain ⟨isOpen, waiter, found, near⟩ := within
  refine ⟨isOpen, _, waiter_after_of_found found, ?_⟩
  rw [fate, if_pos rfl]
  exact distance_takeTicket near

theorem Within.look (within : gate.Within index 1) : (gate.after (.look index)).Within index 0 := by
  obtain ⟨isOpen, waiter, found, near⟩ := within
  refine ⟨isOpen, _, waiter_after_of_found found, ?_⟩
  rw [fate, if_pos rfl, isOpen]
  exact distance_look near

/-- A waiter that need not be woken passes a gate that stays open as soon as it took a ticket and looked,
whatever happens in between. -/
theorem Within.passes (within : gate.Within index 2) (calm : .pause ∉ acts) (stays : .leave index ∉ acts)
    (goesOn : List.Sublist [.takeTicket index, .look index] acts) :
    (gate.run acts).waiters[index]? = some .passed := by
  obtain ⟨front, back, rfl, takes, looks⟩ := List.cons_sublist_iff.1 goesOn
  obtain ⟨before, between, rfl⟩ := List.append_of_mem takes
  obtain ⟨afterwards, rest, rfl⟩ := List.append_of_mem (List.singleton_sublist.1 looks)
  simp only [List.mem_append, List.mem_cons, not_or] at calm stays
  rw [run_append, run_append, run_append, run_cons, run_cons]
  have ticketed := ((within.run calm.1.1 stays.1.1).takeTicket).run calm.1.2.2 stays.1.2.2
  have looked := ((ticketed.run calm.2.1 stays.2.1).look).run calm.2.2.2 stays.2.2.2
  obtain ⟨_, waiter, found, near⟩ := looked
  rw [found, eq_passed_of_distance near]

/-- No waiter at an open gate has to be woken, unless an opening is on its way. -/
theorem Attended.within (attended : gate.Attended) (found : gate.waiters[index]? = some waiter)
    (here : waiter ≠ .dropped) (isOpen : gate.shut = false) (settled : gate.opening = 0) :
    gate.Within index 2 := by
  refine ⟨isOpen, waiter, found, ?_⟩
  cases waiter with
  | waiting honoured =>
      cases honoured with
      | true => exact Nat.le_refl _
      | false =>
          rcases attended index found with shut | opening
          · rw [isOpen] at shut
            cases shut
          · omega
  | dropped => exact absurd rfl here
  | fresh => exact Nat.le_refl _
  | ticketed honoured => exact Nat.le_succ _
  | passed => exact Nat.zero_le _

/-! ## Asking a waiter -/

theorem change_change (gate : Gate) (index : Nat) (first second : Waiter → Waiter) :
    (gate.change index first).change index second = gate.change index (second ∘ first) := by
  simp only [change, List.modify_modify_eq]

/-- Changes that do the same to the waiter that is there are the same. -/
theorem change_congr {first second : Waiter → Waiter}
    (agree : gate.waiters[index]?.map first = gate.waiters[index]?.map second) :
    gate.change index first = gate.change index second := by
  have waiters : (gate.change index first).waiters = (gate.change index second).waiters := by
    apply List.ext_getElem?
    intro other
    rw [waiter_change, waiter_change]
    by_cases same : index = other
    · rw [if_pos same, if_pos same, ← same, agree]
    · rw [if_neg same, if_neg same]
  simp only [change] at waiters ⊢
  rw [waiters]

theorem change_of_fixed {step : Waiter → Waiter}
    (fixed : gate.waiters[index]?.map step = gate.waiters[index]?) : gate.change index step = gate := by
  have unmoved : gate.change index step = gate.change index id := change_congr (fixed.trans Option.map_id'.symm)
  rw [unmoved]
  simp only [change, List.modify_id]

/-- A waiter that is asked looks with the ticket it has, takes another one if it may and looks again. -/
theorem poll_eq_run (gate : Gate) (index : Nat) :
    (gate.poll index).1 = gate.run [.look index, .takeTicket index, .look index] := by
  have composed :
      gate.run [.look index, .takeTicket index, .look index] = gate.change index (advance gate.shut) := by
    simp only [run, List.foldl_cons, List.foldl_nil, after, change_change]
    rfl
  rw [composed, poll]
  split
  · rename_i absent
    exact (change_of_fixed (by rw [absent]; rfl)).symm
  · rename_i passed
    exact (change_of_fixed (by rw [passed]; rfl)).symm
  · rename_i dropped
    exact (change_of_fixed (by rw [dropped]; rfl)).symm
  · rename_i waiter _ _ found
    exact change_congr (by rw [found]; rfl)

/-- A waiter that had not passed or left before is ready when it passes now. -/
theorem poll_ready (found : gate.waiters[index]? = some waiter) (newly : waiter ≠ .passed)
    (here : waiter ≠ .dropped) (passes : (gate.poll index).1.waiters[index]? = some .passed) :
    (gate.poll index).2 = .ready := by
  have asked : gate.poll index =
      (gate.change index fun _ => advance gate.shut waiter,
        if advance gate.shut waiter = .passed then .ready else .pending) := by
    rw [poll, found]
    cases waiter with
    | passed => exact absurd rfl newly
    | dropped => exact absurd rfl here
    | _ => rfl
  rw [asked] at passes ⊢
  rw [waiter_change, if_pos rfl, found] at passes
  exact if_pos (Option.some.inj passes)

/-- Whatever has happened at a gate: a waiter that waits unwoken stands at a shut gate, or an opening will
still honour its ticket; a waiter that passed did so in a step in which it looked at the flag of the open
gate; and a waiter at an open gate with no opening on its way is ready when asked, and passes once it has
taken a ticket and looked, however its steps are spread among those of others that do not shut the gate. -/
theorem no_opening_missed (acts : List Act) (index : Nat) :
    ((new.run acts).waiters[index]? = some (.waiting false) →
      (new.run acts).shut = true ∨ 0 < (new.run acts).opening) ∧
    ((new.run acts).waiters[index]? = some .passed →
      ∃ before honoured later, acts = before ++ .look index :: later ∧ (new.run before).shut = false ∧
        (new.run before).waiters[index]? = some (.ticketed honoured)) ∧
    ∀ waiter, (new.run acts).waiters[index]? = some waiter → waiter ≠ .passed → waiter ≠ .dropped →
      (new.run acts).shut = false → (new.run acts).opening = 0 →
        ((new.run acts).poll index).2 = .ready ∧
        ((new.run acts).poll index).1.waiters[index]? = some .passed ∧
        ∀ more : List Act, .pause ∉ more → .leave index ∉ more →
          List.Sublist [.takeTicket index, .look index] more →
            ((new.run acts).run more).waiters[index]? = some .passed := by
  have attended := attended_new.run acts
  refine ⟨attended index, looked_of_passed, ?_⟩
  intro waiter found newly here isOpen settled
  have near := attended.within found here isOpen settled
  have passes : ((new.run acts).poll index).1.waiters[index]? = some .passed := by
    rw [poll_eq_run]
    exact near.passes (by simp) (by simp) (List.sublist_cons_self _ _)
  exact ⟨poll_ready found newly here passes, passes,
    fun more calm stays goesOn => near.passes calm stays goesOn⟩

/-- Two waiters and two openings: the first waiter finds the gate shut, the second one looks when the first
opening has cleared the flag; the gate is shut again before the first waiter gets to look. -/
def reopening : List Act :=
  [.join, .join, .pause, .takeTicket 0, .look 0, .takeTicket 1, .clear, .look 1, .notify, .pause,
    .takeTicket 0, .look 0, .clear, .notify]

theorem no_opening_missed_reopening :
    ((new.run (reopening.take 7)).waiters = [.waiting false, .ticketed false] ∧
      0 < (new.run (reopening.take 7)).opening) ∧
    ((new.run (reopening.take 12)).waiters = [.waiting false, .passed] ∧
      (new.run (reopening.take 12)).shut = true) ∧
    (∃ before honoured later, reopening = before ++ .look 1 :: later ∧ (new.run before).shut = false ∧
      (new.run before).waiters[1]? = some (.ticketed honoured)) ∧
    (new.run reopening).waiters = [.waiting true, .passed] ∧ ((new.run reopening).poll 0).2 = .ready := by
  have unwoken : (new.run (reopening.take 7)).waiters = [.waiting false, .ticketed false] := by decide
  have again : (new.run (reopening.take 12)).waiters = [.waiting false, .passed] := by decide
  have woken : (new.run reopening).waiters = [.waiting true, .passed] := by decide
  have opening := (no_opening_missed (reopening.take 7) 0).1 (by rw [unwoken]; rfl)
  have shut := (no_opening_missed (reopening.take 12) 0).1 (by rw [again]; rfl)
  have looked := (no_opening_missed reopening 1).2.1 (by rw [woken]; rfl)
  have asked := (no_opening_missed reopening 0).2.2 (.waiting true) (by rw [woken]; rfl) (by decide) (by decide)
    (by decide) (by decide)
  refine ⟨⟨unwoken, ?_⟩, ⟨again, ?_⟩, looked, woken, asked.1⟩
  · exact opening.resolve_left (by decide)
  · exact shut.resolve_right (by decide)

end EventFeed.Flow.Gate
