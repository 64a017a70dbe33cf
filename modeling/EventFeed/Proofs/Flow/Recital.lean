import EventFeed.Proofs.Flow.Prospect
import EventFeed.Proofs.Flow.Turn
import EventFeed.Proofs.Flow.WakeUp

/-!
# A reader and its listener

A reader recites its files to a listener, line by line, behind a gate that anyone may shut and open at any
moment: the listener while it has a line, and others at any time. Coming to the gate, taking a ticket, looking
at the flag, reading a line and handing it over are steps of their own.
-/

namespace EventFeed.Flow

inductive Recital.Stage where
  /-- On its own way. -/
  | free
  /-- At the gate, as the waiter with a number. -/
  | atGate (index : Nat)
  /-- With a line that was read and is not handed over yet. -/
  | carrying (line : SourceLine)
  /-- Back when the listener is done with the line that it has. -/
  | listening
  deriving DecidableEq, Repr

/-- A reader, the gate before it, and the lines that the listener was handed. -/
structure Recital where
  reader : Reader
  shared : Shared
  gate : Gate
  stage : Recital.Stage
  heard : List SourceLine

inductive Recital.Turn where
  /-- The reader takes a step, if it can. -/
  | own
  | pause
  /-- The first half of an opening. -/
  | clear
  /-- The second half of an opening. -/
  | notify
  deriving DecidableEq, Repr

namespace Recital

variable {recital next : Recital}

def start (marks : Watermarks) (files : List SourceFile) : Recital :=
  ⟨Reader.start files, Shared.start marks, Gate.new, .free, []⟩

def Stage.ofHanded : Option SourceLine → Stage
  | none => .free
  | some line => .carrying line

/-- The line that is on its way to the listener. -/
def Stage.carried : Stage → List SourceLine
  | .free => []
  | .atGate _ => []
  | .carrying line => [line]
  | .listening => []

def read (recital : Recital) : Option Recital :=
  (recital.reader.step recital.shared).map fun (reader, shared, handed) =>
    { recital with reader := reader, shared := shared, stage := .ofHanded handed }

/-- A step at the gate. A waiter that finds it open goes on at once. -/
def passGate (recital : Recital) (index : Nat) : Option Recital :=
  match recital.gate.waiters[index]? with
  | some (.ticketed _) =>
      let looked := { recital with gate := recital.gate.after (.look index) }
      some (looked.read.getD looked)
  | some .fresh => some { recital with gate := recital.gate.after (.takeTicket index) }
  | some (.waiting true) => some { recital with gate := recital.gate.after (.takeTicket index) }
  | _ => none

/-- The next step of the reader; none when it waits or has finished. -/
def advance (recital : Recital) : Option Recital :=
  match recital.stage with
  | .free =>
      match recital.reader.place with
      | .looking _ =>
          some { recital with
            gate := recital.gate.after .join
            stage := .atGate recital.gate.waiters.length }
      | _ => recital.read
  | .atGate index => recital.passGate index
  | .carrying line => some { recital with stage := .listening, heard := recital.heard ++ [line] }
  | .listening => some { recital with stage := .free }

def meddle (recital : Recital) (act : Gate.Act) : Recital :=
  { recital with
    gate := recital.gate.after act
    shared := { recital.shared with paused := (recital.gate.after act).shut } }

def after (recital : Recital) : Turn → Recital
  | .own => recital.advance.getD recital
  | .pause => recital.meddle .pause
  | .clear => recital.meddle .clear
  | .notify => recital.meddle .notify

def play (recital : Recital) (turns : List Turn) : Recital :=
  turns.foldl after recital

def Finished (recital : Recital) : Prop :=
  recital.reader.place = .finished

instance (recital : Recital) : Decidable recital.Finished :=
  inferInstanceAs (Decidable (recital.reader.place = .finished))

/-- The reader goes on from its next step. -/
theorem play_own (moved : recital.advance = some next) (count : Nat) :
    recital.play (List.replicate (count + 1) .own) = next.play (List.replicate count .own) := by
  have stepped : recital.after .own = next := by rw [after, moved, Option.getD_some]
  rw [List.replicate_succ, play, List.foldl_cons, stepped, play]

/-! ## Steps -/

/-- The steps of a reader that stands where it may: `Placed` below. -/
inductive Moves (recital : Recital) : Recital → Prop where
  | came {file : OpenFile} (free : recital.stage = .free) (looking : recital.reader.place = .looking file) :
      Moves recital
        { recital with gate := recital.gate.after .join, stage := .atGate recital.gate.waiters.length }
  | tookTicket {index : Nat} {waiter : Waiter} (waits : recital.stage = .atGate index)
      (found : recital.gate.waiters[index]? = some waiter) (may : waiter = .fresh ∨ waiter = .waiting true) :
      Moves recital { recital with gate := recital.gate.after (.takeTicket index) }
  | foundShut {index : Nat} {honoured : Bool} (waits : recital.stage = .atGate index)
      (found : recital.gate.waiters[index]? = some (.ticketed honoured)) (paused : recital.shared.paused = true) :
      Moves recital { recital with gate := recital.gate.after (.look index) }
  | foundOpen {index : Nat} {honoured : Bool} {file : OpenFile} (waits : recital.stage = .atGate index)
      (found : recital.gate.waiters[index]? = some (.ticketed honoured)) (running : recital.shared.paused = false)
      (looking : recital.reader.place = .looking file) :
      Moves recital
        { recital with
          gate := recital.gate.after (.look index)
          reader := { recital.reader with place := .reading file }
          stage := .free }
  | read {reader : Reader} {shared : Shared} {handed : Option SourceLine} (free : recital.stage = .free)
      (away : ∀ file, recital.reader.place ≠ .looking file)
      (moved : recital.reader.Moves recital.shared reader shared handed) :
      Moves recital { recital with reader := reader, shared := shared, stage := .ofHanded handed }
  | handedOver {line : SourceLine} (carries : recital.stage = .carrying line) :
      Moves recital { recital with stage := .listening, heard := recital.heard ++ [line] }
  | returned (listens : recital.stage = .listening) : Moves recital { recital with stage := .free }

/-- A reader at the gate has a waiter there who neither passed nor left, and is about to look at the flag; so it
is when it has read a line. -/
def Placed (recital : Recital) : Prop :=
  match recital.stage with
  | .free => True
  | .atGate index =>
      (∃ file, recital.reader.place = .looking file) ∧
        ∃ waiter, recital.gate.waiters[index]? = some waiter ∧ waiter ≠ .passed ∧ waiter ≠ .dropped
  | .carrying _ => ∃ file, recital.reader.place = .looking file
  | .listening => ∃ file, recital.reader.place = .looking file

theorem moves_of_read (free : recital.stage = .free) (away : ∀ file, recital.reader.place ≠ .looking file)
    (moved : recital.read = some next) : recital.Moves next := by
  obtain ⟨⟨reader, shared, handed⟩, stepped, rfl⟩ := Option.map_eq_some_iff.1 moved
  exact .read free away (Reader.moves_of_step stepped)

theorem moves_of_passGate {index : Nat} (waits : recital.stage = .atGate index) (placed : recital.Placed)
    (moved : recital.passGate index = some next) : recital.Moves next := by
  rw [Placed, waits] at placed
  obtain ⟨⟨file, looking⟩, _⟩ := placed
  unfold passGate at moved
  split at moved
  · rename_i honoured found
    cases paused : recital.shared.paused with
    | true =>
        have still : recital.reader.step recital.shared = none := by simp [Reader.step, looking, paused]
        simp only [read, still, Option.map_none, Option.getD_none, Option.some.injEq] at moved
        rw [← moved]
        exact .foundShut waits found paused
    | false =>
        have stepped : recital.reader.step recital.shared =
            some ({ recital.reader with place := .reading file }, recital.shared, none) := by
          simp [Reader.step, looking, paused]
        simp only [read, stepped, Option.map_some, Option.getD_some, Option.some.injEq] at moved
        rw [← moved]
        exact .foundOpen waits found paused looking
  · rename_i found
    cases moved
    exact .tookTicket waits found (.inl rfl)
  · rename_i found
    cases moved
    exact .tookTicket waits found (.inr rfl)
  · cases moved

theorem moves_of_advance (placed : recital.Placed) (moved : recital.advance = some next) :
    recital.Moves next := by
  unfold advance at moved
  split at moved
  · rename_i free
    split at moved
    · rename_i file looking
      cases moved
      exact .came free looking
    · rename_i away
      exact moves_of_read free away moved
  · rename_i index waits
    exact moves_of_passGate waits placed moved
  · rename_i line carries
    cases moved
    exact .handedOver carries
  · rename_i listens
    cases moved
    exact .returned listens

end Recital

/-! ## What every step keeps -/

/-- What a reader has written down, against its files. -/
structure Reader.Honest (files : List SourceFile) (reader : Reader) (shared : Shared) : Prop where
  prospect_eq : reader.prospect = statsOfFiles files
  booked : reader.Booked files.length shared.reading
  ended : shared.exhausted = true ↔ reader.place = .finished

theorem Reader.Moves.honest {files : List SourceFile} {reader next : Reader} {shared after : Shared}
    {handed : Option SourceLine} (moves : reader.Moves shared next after handed)
    (honest : reader.Honest files shared) : next.Honest files after :=
  ⟨moves.prospect.trans honest.prospect_eq, moves.booked honest.booked, moves.exhausted_iff honest.ended⟩

namespace Recital

variable {files : List SourceFile} {recital next : Recital}

/-- What is so at every moment: the two flags are one, whoever waits at the gate does so for a reason, and what
was handed over, what is on its way and what is before the reader are the lines of the files. -/
structure Orderly (files : List SourceFile) (recital : Recital) : Prop where
  inStep : recital.shared.paused = recital.gate.shut
  attended : recital.gate.Attended
  placed : recital.Placed
  whole : recital.heard ++ recital.stage.carried ++ recital.reader.toCome = linesOfFiles files
  honest : recital.reader.Honest files recital.shared

theorem orderly_start (marks : Watermarks) (files : List SourceFile) : (start marks files).Orderly files where
  inStep := rfl
  attended := Gate.attended_new
  placed := trivial
  whole := rfl
  honest := ⟨Reader.prospect_start files, .start files marks, iff_of_false nofun nofun⟩

/-- A reader that is not on its own way is about to look at the flag. -/
theorem Placed.looking (placed : recital.Placed) (busy : recital.stage ≠ .free) :
    ∃ file, recital.reader.place = .looking file := by
  rw [Placed] at placed
  cases stage : recital.stage with
  | free => exact absurd stage busy
  | atGate index =>
      rw [stage] at placed
      exact placed.1
  | carrying line =>
      rw [stage] at placed
      exact placed
  | listening =>
      rw [stage] at placed
      exact placed

/-- The waiter of a reader at the gate after something happened there that it did not do itself. -/
theorem Placed.after {act : Gate.Act} (placed : recital.Placed)
    (others : ∀ index waiter, waiter ≠ .passed → waiter ≠ .dropped →
      recital.gate.fate index act waiter ≠ .passed ∧ recital.gate.fate index act waiter ≠ .dropped) :
    (recital.meddle act).Placed := by
  have same : (recital.meddle act).stage = recital.stage := rfl
  rw [Placed] at placed ⊢
  rw [same]
  cases stage : recital.stage with
  | free => trivial
  | atGate index =>
      rw [stage] at placed
      obtain ⟨looking, waiter, found, newly, here⟩ := placed
      exact ⟨looking, _, Gate.waiter_after_of_found found, others index waiter newly here⟩
  | carrying line =>
      rw [stage] at placed
      exact placed
  | listening =>
      rw [stage] at placed
      exact placed

theorem Orderly.meddle {act : Gate.Act} (orderly : recital.Orderly files)
    (others : ∀ index waiter, waiter ≠ .passed → waiter ≠ .dropped →
      recital.gate.fate index act waiter ≠ .passed ∧ recital.gate.fate index act waiter ≠ .dropped) :
    (recital.meddle act).Orderly files where
  inStep := rfl
  attended := orderly.attended.after act
  placed := orderly.placed.after others
  whole := orderly.whole
  honest := ⟨orderly.honest.prospect_eq, orderly.honest.booked, orderly.honest.ended⟩

/-- A reader hands a line over before it looks at the flag again. -/
theorem looking_of_handed {reader after : Reader} {shared later : Shared} {line : SourceLine}
    (moves : reader.Moves shared after later (some line)) : ∃ file, after.place = .looking file := by
  cases moves
  exact ⟨_, rfl⟩

theorem Orderly.step (orderly : recital.Orderly files) (moves : recital.Moves next) : next.Orderly files := by
  obtain ⟨inStep, attended, placed, whole, honest⟩ := orderly
  cases moves with
  | @came file free looking =>
      refine ⟨inStep, attended.after .join, ⟨⟨file, looking⟩, .fresh, ?_, by simp, by simp⟩, ?_, honest⟩
      · exact List.getElem?_concat_length
      · rw [free] at whole
        exact whole
  | @tookTicket index waiter waits found may =>
      rw [Placed, waits] at placed
      refine ⟨inStep, attended.after _, ?_, whole, honest⟩
      have taken : recital.gate.fate index (.takeTicket index) waiter = .ticketed false := by
        rw [Gate.fate, if_pos rfl]
        rcases may with rfl | rfl <;> rfl
      have held := @Gate.waiter_after_of_found recital.gate _ (.takeTicket index) _ found
      rw [taken] at held
      rw [Placed, waits]
      exact ⟨placed.1, _, held, by simp, by simp⟩
  | @foundShut index honoured waits found paused =>
      rw [Placed, waits] at placed
      refine ⟨inStep, attended.after _, ?_, whole, honest⟩
      have stays : recital.gate.fate index (.look index) (.ticketed honoured) = .waiting honoured := by
        rw [Gate.fate, if_pos rfl, ← inStep, paused]
        rfl
      have held := @Gate.waiter_after_of_found recital.gate _ (.look index) _ found
      rw [stays] at held
      rw [Placed, waits]
      exact ⟨placed.1, _, held, by simp, by simp⟩
  | @foundOpen index honoured file waits found running looking =>
      have moved : recital.reader.Moves recital.shared { recital.reader with place := .reading file }
          recital.shared none := .looked looking running
      refine ⟨inStep, attended.after _, trivial, ?_, moved.honest honest⟩
      rw [waits, moved.toCome] at whole
      exact whole
  | @read reader shared handed free away moved =>
      refine ⟨moved.frame.2.trans inStep, attended, ?_, ?_, moved.honest honest⟩
      · cases handed with
        | none => trivial
        | some line => exact looking_of_handed moved
      · rw [free, moved.toCome] at whole
        cases handed with
        | none => exact whole
        | some line =>
            rw [List.append_assoc] at whole ⊢
            exact whole
  | @handedOver line carries =>
      rw [Placed, carries] at placed
      refine ⟨inStep, attended, placed, ?_, honest⟩
      rw [carries] at whole
      exact (congrArg (· ++ _) (List.append_nil _)).trans whole
  | returned listens =>
      refine ⟨inStep, attended, trivial, ?_, honest⟩
      rw [listens] at whole
      exact whole

theorem Orderly.after (orderly : recital.Orderly files) (turn : Turn) : (recital.after turn).Orderly files := by
  cases turn with
  | own =>
      rw [Recital.after]
      cases moved : recital.advance with
      | none => exact orderly
      | some next => exact orderly.step (moves_of_advance orderly.placed moved)
  | pause => exact orderly.meddle fun _ _ newly here => ⟨newly, here⟩
  | clear => exact orderly.meddle fun _ _ newly here => ⟨newly, here⟩
  | notify =>
      refine orderly.meddle fun index waiter newly here => ?_
      rw [Gate.fate]
      split
      · cases waiter <;> simp_all [Gate.honour]
      · exact ⟨newly, here⟩

theorem Orderly.play (orderly : recital.Orderly files) (turns : List Turn) :
    (recital.play turns).Orderly files := by
  induction turns generalizing recital with
  | nil => exact orderly
  | cons turn turns ih => exact ih (orderly.after turn)

/-- A reader that is not about to look at the flag has nothing on its way. -/
theorem Orderly.free_of_away (orderly : recital.Orderly files)
    (away : ∀ file, recital.reader.place ≠ .looking file) : recital.stage = .free := by
  by_contra busy
  obtain ⟨file, looking⟩ := orderly.placed.looking busy
  exact away file looking

/-- The counts of a run are those of the lines that were handed over or are on their way. -/
theorem Orderly.progress_eq (orderly : recital.Orderly files) :
    recital.shared.progress.linesRead = UInt64.ofNat (recital.heard ++ recital.stage.carried).length ∧
      recital.shared.progress.bytesRead = UInt64.ofNat (weightOf (recital.heard ++ recital.stage.carried)) := by
  have booked := orderly.honest.booked
  have prospect_eq := orderly.honest.prospect_eq
  rw [Reader.prospect, statsOfFiles, SourceStats.mk.injEq] at prospect_eq
  obtain ⟨_, _, lines_eq, bytes_eq⟩ := prospect_eq
  rw [← booked.lines_eq, ← orderly.whole, List.length_append, UInt64.ofNat_add] at lines_eq
  rw [← booked.bytes_eq, ← orderly.whole, weightOf_append, UInt64.ofNat_add] at bytes_eq
  exact ⟨(UInt64.add_left_inj _).1 lines_eq, (UInt64.add_left_inj _).1 bytes_eq⟩

/-- A reader that has finished has handed over all lines of its files, and its figures are those of the files. -/
theorem Orderly.of_finished (orderly : recital.Orderly files) (finished : recital.Finished) :
    recital.heard = linesOfFiles files ∧ recital.reader.stats = statsOfFiles files := by
  have free : recital.stage = .free := orderly.free_of_away fun file looking => by
    cases finished.symm.trans looking
  have ended : recital.reader.place = .finished := finished
  have done : recital.reader.toCome = [] := by simp only [Reader.toCome, ended]
  have whole := orderly.whole
  rw [free, done, Stage.carried, List.append_nil, List.append_nil] at whole
  obtain ⟨nothing, _⟩ := orderly.honest.booked.finished ended
  exact ⟨whole, (Reader.prospect_eq_stats nothing (orderly.honest.booked.last ended) done).symm.trans
    orderly.honest.prospect_eq⟩

/-! ## Coming to the end -/

/-- How many steps the reader has before it, where the gate stays open. -/
def work (recital : Recital) : Nat :=
  6 * recital.reader.work +
    match recital.stage with
    | .free => 3
    | .atGate index => (recital.gate.waiters[index]?.map Gate.distance).getD 3
    | .carrying _ => 5
    | .listening => 4

/-- The gate is open, and no opening is half done. -/
def Admits (recital : Recital) : Prop :=
  recital.gate.shut = false ∧ recital.gate.opening = 0

/-- At an open gate a reader that has not finished can take a step. -/
theorem Orderly.exists_advance (orderly : recital.Orderly files) (admits : recital.Admits)
    (unfinished : ¬recital.Finished) : ∃ next, recital.advance = some next := by
  obtain ⟨isOpen, settled⟩ := admits
  have placed := orderly.placed
  unfold advance
  split
  · split
    · exact ⟨_, rfl⟩
    · have running : recital.shared.paused = false := orderly.inStep.trans isOpen
      obtain ⟨reader, shared, handed, stepped⟩ := Reader.exists_moves running unfinished
      rw [read, stepped]
      exact ⟨_, rfl⟩
  · rename_i index waits
    rw [Placed, waits] at placed
    obtain ⟨_, waiter, found, newly, here⟩ := placed
    obtain ⟨_, same, found', near⟩ := orderly.attended.within found here isOpen settled
    rw [found] at found'
    cases found'
    unfold passGate
    rw [found]
    cases waiter with
    | fresh => exact ⟨_, rfl⟩
    | ticketed honoured => exact ⟨_, rfl⟩
    | waiting honoured =>
        cases honoured with
        | true => exact ⟨_, rfl⟩
        | false => exact absurd near (by decide)
    | passed => exact absurd rfl newly
    | dropped => exact absurd rfl here
  · exact ⟨_, rfl⟩
  · exact ⟨_, rfl⟩

/-- Every step at an open gate brings the reader nearer to its end, and the gate stays open. -/
theorem Orderly.work_lt (orderly : recital.Orderly files) (admits : recital.Admits) (moves : recital.Moves next) :
    next.work < recital.work ∧ next.Admits := by
  refine ⟨?_, ?_⟩
  · cases moves with
    | came free looking =>
        have joined : (recital.gate.after .join).waiters[recital.gate.waiters.length]? = some .fresh :=
          List.getElem?_concat_length
        simp [work, free, joined, Gate.distance]
    | @tookTicket index waiter waits found may =>
        have held := @Gate.waiter_after_of_found recital.gate _ (.takeTicket index) _ found
        rcases may with rfl | rfl <;>
          simp [work, waits, found, held, Gate.fate, Gate.takeTicket, Gate.distance]
    | foundShut waits found paused =>
        have running := orderly.inStep.trans admits.1
        rw [running] at paused
        cases paused
    | @foundOpen index honoured file waits found running looking =>
        have moved : recital.reader.Moves recital.shared { recital.reader with place := .reading file }
            recital.shared none := .looked looking running
        have less := moved.work_lt
        dsimp only at less
        simp only [work, waits, found, Option.map_some, Option.getD_some, Gate.distance]
        omega
    | @read reader shared handed free away moved =>
        have less := moved.work_lt
        cases handed with
        | none =>
            simp only [work, free, Stage.ofHanded]
            omega
        | some line =>
            simp only [work, free, Stage.ofHanded]
            omega
    | handedOver carries => simp [work, carries]
    | returned listens => simp [work, listens]
  · cases moves <;> exact admits

/-- A reader that is let go on comes to its end. -/
theorem Orderly.exists_finished (orderly : recital.Orderly files) (admits : recital.Admits) :
    ∃ count, (recital.play (List.replicate count .own)).Finished := by
  induction left : recital.work using Nat.strong_induction_on generalizing recital with
  | _ left ih =>
      subst left
      by_cases finished : recital.Finished
      · exact ⟨0, finished⟩
      · obtain ⟨next, moved⟩ := orderly.exists_advance admits finished
        have moves := moves_of_advance orderly.placed moved
        obtain ⟨less, stillOpen⟩ := orderly.work_lt admits moves
        obtain ⟨count, ended⟩ := ih _ less (orderly.step moves) stillOpen rfl
        exact ⟨count + 1, by rw [play_own moved]; exact ended⟩

end Recital

end EventFeed.Flow
