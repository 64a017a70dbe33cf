import EventFeed.Proofs.Flow.Recital

/-!
# Pauses

Whoever shuts the gate stops the reader at its next look at the flag. A line that was read, or that is about to
be read, is past the gate by then and still reaches the listener; there is never more than one of them, and none
while the listener is busy. Nothing is lost by a pause and nothing comes twice: two recitals of the same files
differ only in when the listener hears what.
-/

namespace EventFeed.Flow.Recital

variable {files : List SourceFile} {recital next last : Recital} {turns : List Turn}

/-- How many lines may be past the gate and not with the listener yet. -/
def underWay (recital : Recital) : Nat :=
  match recital.stage, recital.reader.place with
  | .carrying _, _ => 1
  | .free, .reading _ => 1
  | _, _ => 0

theorem underWay_le (recital : Recital) : recital.underWay ≤ 1 := by
  unfold underWay
  split <;> decide

theorem underWay_of_listening (listens : recital.stage = .listening) : recital.underWay = 0 := by
  simp only [underWay, listens]

/-- The gate is shut still, and the listener was handed nothing but what was past it. -/
structure HeldBack (recital later : Recital) : Prop where
  shut : later.gate.shut = true
  spent : ∃ further, later.heard = recital.heard ++ further ∧
    further.length + later.underWay ≤ recital.underWay

theorem HeldBack.refl (shut : recital.gate.shut = true) : recital.HeldBack recital :=
  ⟨shut, [], (List.append_nil _).symm, by rw [List.length_nil, Nat.zero_add]⟩

theorem HeldBack.trans (first : recital.HeldBack next) (second : next.HeldBack last) :
    recital.HeldBack last := by
  obtain ⟨_, some, heard, spent⟩ := first
  obtain ⟨shut, more, heardLater, spentLater⟩ := second
  refine ⟨shut, some ++ more, ?_, ?_⟩
  · rw [heardLater, heard, List.append_assoc]
  · rw [List.length_append]
    omega

/-- A step that hands nothing over holds back, if it brings nothing past the gate. -/
theorem HeldBack.of_heard_eq (shut : next.gate.shut = true) (same : next.heard = recital.heard)
    (spent : next.underWay ≤ recital.underWay) : recital.HeldBack next :=
  ⟨shut, [], same.trans (List.append_nil _).symm, by rw [List.length_nil, Nat.zero_add]; exact spent⟩

/-- A reader that does not look at the flag is not about to read, unless it was so before. -/
theorem underWay_read {reader : Reader} {shared : Shared} {handed : Option SourceLine}
    (free : recital.stage = .free) (away : ∀ file, recital.reader.place ≠ .looking file)
    (moved : recital.reader.Moves recital.shared reader shared handed) :
    underWay { recital with reader := reader, shared := shared, stage := .ofHanded handed } ≤
      recital.underWay := by
  cases moved with
  | ended => exact Nat.zero_le _
  | passedOver => exact Nat.zero_le _
  | opened => exact Nat.zero_le _
  | @looked file before => exact absurd before (away file)
  | @handedOver file line rest before found =>
      simp only [underWay, free, before]
      exact Nat.le_refl 1
  | finished => exact Nat.zero_le _
  | failed => exact Nat.zero_le _

/-- What a step of the reader does at a shut gate. -/
theorem Orderly.heldBack_of_moves (orderly : recital.Orderly files) (shut : recital.gate.shut = true)
    (moves : recital.Moves next) : recital.HeldBack next := by
  cases moves with
  | came => exact .of_heard_eq shut rfl (Nat.zero_le _)
  | tookTicket waits =>
      refine .of_heard_eq shut rfl ?_
      simp only [underWay, waits, Nat.le_refl]
  | foundShut waits =>
      refine .of_heard_eq shut rfl ?_
      simp only [underWay, waits, Nat.le_refl]
  | foundOpen waits found running =>
      rw [orderly.inStep, shut] at running
      cases running
  | read free away moved => exact .of_heard_eq shut rfl (underWay_read free away moved)
  | @handedOver line carries =>
      refine ⟨shut, [line], rfl, ?_⟩
      simp only [underWay, carries]
      exact Nat.le_refl 1
  | returned listens =>
      obtain ⟨file, looking⟩ := orderly.placed.looking (by simp [listens])
      refine .of_heard_eq shut rfl ?_
      simp only [underWay, looking, Nat.zero_le]

theorem Orderly.heldBack_after {turn : Turn} (orderly : recital.Orderly files)
    (shut : recital.gate.shut = true) (kept : turn ≠ .clear) : recital.HeldBack (recital.after turn) := by
  cases turn with
  | own =>
      rw [Recital.after]
      cases moved : recital.advance with
      | none => exact .refl shut
      | some next => exact orderly.heldBack_of_moves shut (moves_of_advance orderly.placed moved)
  | pause => exact .of_heard_eq rfl rfl (Nat.le_refl _)
  | clear => exact absurd rfl kept
  | notify =>
      refine .of_heard_eq ?_ rfl (Nat.le_refl _)
      change (recital.gate.after .notify).shut = true
      rw [Gate.after]
      split <;> exact shut

/-- As long as nobody opens it, a gate that is shut holds back whatever is not past it. -/
theorem Orderly.heldBack (orderly : recital.Orderly files) (shut : recital.gate.shut = true)
    (kept : .clear ∉ turns) : recital.HeldBack (recital.play turns) := by
  induction turns generalizing recital with
  | nil => exact .refl shut
  | cons turn turns ih =>
      obtain ⟨notThis, notLater⟩ := List.ne_and_not_mem_of_not_mem_cons kept
      have first := orderly.heldBack_after shut (Ne.symm notThis)
      exact first.trans (ih (orderly.after turn) first.shut notLater)

/-- A pause lets through what is past the gate, and nothing while the listener is busy. -/
theorem Orderly.heard_of_paused (orderly : recital.Orderly files) (kept : .clear ∉ turns) :
    ∃ further, (recital.play (.pause :: turns)).heard = recital.heard ++ further ∧ further.length ≤ 1 ∧
      (recital.stage = .listening → further = []) := by
  obtain ⟨_, further, heard, spent⟩ := (orderly.after .pause).heldBack rfl kept
  have few : further.length ≤ recital.underWay := Nat.le_trans (Nat.le_add_right _ _) spent
  refine ⟨further, heard, Nat.le_trans few recital.underWay_le, fun listens => ?_⟩
  rw [underWay_of_listening listens] at few
  exact List.length_eq_zero_iff.1 (Nat.le_zero.1 few)

/-- At the gate nothing is marked yet. -/
theorem Orderly.exhausted_of_atGate {index : Nat} (orderly : recital.Orderly files)
    (waits : recital.stage = .atGate index) : recital.shared.exhausted = false := by
  obtain ⟨file, looking⟩ := orderly.placed.looking (by simp [waits])
  rw [Bool.eq_false_iff]
  intro marked
  have ended := orderly.honest.ended.1 marked
  rw [looking] at ended
  cases ended

theorem Orderly.heard_isPrefix (orderly : recital.Orderly files) : recital.heard <+: linesOfFiles files := by
  refine ⟨recital.stage.carried ++ recital.reader.toCome, ?_⟩
  rw [← List.append_assoc]
  exact orderly.whole

/-- A recital that nobody disturbs comes to its end. However often the gate before another one of the same files
is shut and opened, by whomever and when: if it comes to its end, the listener has heard the same lines and the
figures are the same; until then it has heard the first of them; and it comes to its end once it is let go on. A
pause lets at most one more line through until the next opening, and none if the listener is busy; and nothing is
marked while the reader is at the gate. -/
theorem pauses_change_nothing (marks : Watermarks) (files : List SourceFile) :
    ∃ steps,
      let calm := (start marks files).play (List.replicate steps .own)
      calm.Finished ∧
        ∀ turns,
          let recital := (start marks files).play turns
          (recital.Finished → recital.heard = calm.heard ∧ recital.reader.stats = calm.reader.stats) ∧
            recital.heard <+: calm.heard ∧
            (recital.Admits → ∃ count, (recital.play (List.replicate count .own)).Finished) ∧
            (∀ more, .clear ∉ more →
              ∃ further, (recital.play (.pause :: more)).heard = recital.heard ++ further ∧
                further.length ≤ 1 ∧ (recital.stage = .listening → further = [])) ∧
            ∀ index, recital.stage = .atGate index → recital.shared.exhausted = false := by
  have fresh := orderly_start marks files
  obtain ⟨steps, ended⟩ := fresh.exists_finished ⟨rfl, rfl⟩
  obtain ⟨calmHeard, calmStats⟩ := (fresh.play (List.replicate steps .own)).of_finished ended
  refine ⟨steps, ended, fun turns => ?_⟩
  have orderly := fresh.play turns
  refine ⟨fun finished => ?_, ?_, orderly.exists_finished, fun more kept => orderly.heard_of_paused kept,
    fun index => orderly.exhausted_of_atGate⟩
  · obtain ⟨heard, stats⟩ := orderly.of_finished finished
    exact ⟨heard.trans calmHeard.symm, stats.trans calmStats.symm⟩
  · rw [calmHeard]
    exact orderly.heard_isPrefix

/-- The gate is shut before the first look at the flag, shut again between the two halves of an opening, and opened;
then the reader goes on until the listener has its second line. -/
def hesitations : List Turn :=
  [.pause, .own, .own, .own, .own, .clear, .pause, .notify, .own, .own, .clear, .notify] ++
    List.replicate 10 .own

/-- From there: once more shut and opened, and on to the end. -/
def resumption : List Turn :=
  [.pause, .own, .own, .clear, .notify] ++ List.replicate 50 .own

theorem pauses_change_nothing_hesitations :
    let busy := (start ⟨2, 1⟩ troubledFiles).play hesitations
    busy.stage = .listening ∧ busy.heard.length = 2 ∧
      (∀ more, .clear ∉ more → (busy.play (.pause :: more)).heard = busy.heard) ∧
      ∃ steps,
        let calm := (start ⟨2, 1⟩ troubledFiles).play (List.replicate steps .own)
        let resumed := (start ⟨2, 1⟩ troubledFiles).play (hesitations ++ resumption)
        calm.Finished ∧ resumed.Finished ∧ resumed.heard = calm.heard ∧
          resumed.reader.stats = calm.reader.stats ∧ resumed.reader.stats = ⟨1, 2, 7, 44⟩ := by
  intro busy
  obtain ⟨steps, ended, same⟩ := pauses_change_nothing ⟨2, 1⟩ troubledFiles
  have listens : busy.stage = .listening := by decide +kernel
  have done : ((start ⟨2, 1⟩ troubledFiles).play (hesitations ++ resumption)).Finished := by decide +kernel
  have figures : ((start ⟨2, 1⟩ troubledFiles).play (hesitations ++ resumption)).reader.stats = ⟨1, 2, 7, 44⟩ := by
    decide +kernel
  obtain ⟨heard, stats⟩ := (same (hesitations ++ resumption)).1 done
  refine ⟨listens, by decide +kernel, fun more kept => ?_, steps, ended, done, heard, stats, figures⟩
  obtain ⟨_, _, _, paused, _⟩ := same hesitations
  obtain ⟨further, further_eq, _, none⟩ := paused more kept
  rw [none listens, List.append_nil] at further_eq
  exact further_eq

end EventFeed.Flow.Recital
