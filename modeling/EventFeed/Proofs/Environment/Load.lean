import EventFeed.Environment.Entry
import Mathlib.Tactic.SplitIfs

/-!
# What is wrong with an environment file

Values may be put into other values, so what a file offers depends on what is set already. Whether the file is
in order does not, nor does the fault that is found in it.
-/

namespace EventFeed.Environment

/-- Two results that differ at most in a value that was found: there is one on both sides, or the same fault. -/
theorem both_of_map_eq {ε α β γ : Type} {f : α → γ} {g : β → γ} {here : Except ε α} {there : Except ε β}
    (same : here.map f = there.map g) :
    (∃ x y, here = .ok x ∧ there = .ok y ∧ f x = g y) ∨ ∃ fault, here = .error fault ∧ there = .error fault := by
  cases here with
  | error fault =>
      cases there with
      | error fault' => exact .inr ⟨fault, rfl, congrArg Except.error (Except.error.inj same).symm⟩
      | ok y => cases same
  | ok x =>
      cases there with
      | error fault => cases same
      | ok y => exact .inl ⟨x, y, rfl, rfl, Except.ok.inj same⟩

variable (first second : Environment)

theorem Place.step_place (place : Place) (c : Char) :
    (place.step first c).map Prod.fst = (place.step second c).map Prod.fst := by
  cases place with
  | free quoted => rfl
  | escaped quoted => rfl
  | single => rfl
  | named quoted name =>
      unfold step
      dsimp only
      split_ifs <;> rfl
  | braced quoted name =>
      unfold step
      dsimp only
      split_ifs <;> rfl
  | ended => rfl
  | comment => rfl

theorem Place.isSome_finish? (place : Place) :
    (place.finish? first).isSome = (place.finish? second).isSome := by
  cases place with
  | named quoted name => cases quoted <;> rfl
  | free quoted => cases quoted <;> rfl
  | escaped quoted => cases quoted <;> rfl
  | _ => rfl

/-- A value goes wrong at the same index or not at all. -/
theorem fault_valueFrom_eq (last index : Nat) (place : Place) (text : List Char) :
    (valueFrom first last index place text).map (fun _ => ()) =
      (valueFrom second last index place text).map (fun _ => ()) := by
  induction text generalizing index place with
  | nil =>
      have ends := place.isSome_finish? first second
      rw [valueFrom, valueFrom]
      cases here : place.finish? first with
      | none =>
          rw [here] at ends
          rw [Option.isSome_eq_false_iff.1 ends.symm |> Option.isNone_iff_eq_none.1]
      | some added =>
          rw [here] at ends
          obtain ⟨other, there⟩ := Option.isSome_iff_exists.1 ends.symm
          rw [there]
          rfl
  | cons c rest ih =>
      have goes := place.step_place first second c
      rw [valueFrom, valueFrom]
      cases here : place.step first c with
      | none =>
          rw [here] at goes
          rw [Option.map_eq_none_iff.1 goes.symm]
      | some stepped =>
          rw [here] at goes
          obtain ⟨other, there, same⟩ := Option.map_eq_some_iff.1 goes.symm
          obtain ⟨next, added⟩ := stepped
          obtain ⟨next', added'⟩ := other
          obtain rfl : next' = next := same
          rw [there]
          dsimp only
          rcases both_of_map_eq (ih (index + 1) next') with ⟨_, _, one, two, _⟩ | ⟨fault, one, two⟩
          · rw [one, two]
            rfl
          · rw [one, two]

theorem fault_value_eq (text : List Char) :
    (value first text).map (fun _ => ()) = (value second text).map (fun _ => ()) := by
  unfold value
  split
  · rfl
  · rcases both_of_map_eq (fault_valueFrom_eq first second (byteCount text - 1) 0 (.free false) text) with
      ⟨_, _, one, two, _⟩ | ⟨fault, one, two⟩
    · rw [one, two]
      rfl
    · rw [one, two]

/-- A line names the same variable, or none, or goes wrong in the same way. -/
theorem name_entry_eq (line : List Char) :
    (entry first line).map (Option.map Prod.fst) = (entry second line).map (Option.map Prod.fst) := by
  unfold entry
  dsimp only
  split
  · rfl
  · split
    · rfl
    · rename_i name rest _
      rcases both_of_map_eq (fault_value_eq first second (skipBlanks rest)) with
        ⟨_, _, one, two, _⟩ | ⟨fault, one, two⟩
      · rw [one, two]
        rfl
      · rw [one, two]

theorem fault_offerLines_eq (lines : List (Except FileFault (List Char))) :
    (first.offerLines lines).2 = (second.offerLines lines).2 := by
  induction lines generalizing first second with
  | nil => rfl
  | cons line rest ih =>
      cases line with
      | error fault => rfl
      | ok line =>
          rw [offerLines, offerLines]
          rcases both_of_map_eq (name_entry_eq first second line) with
            ⟨found, found', one, two, names⟩ | ⟨fault, one, two⟩
          · rw [one, two]
            cases found with
            | none =>
                obtain rfl := Option.map_eq_none_iff.1 names.symm
                exact ih first second
            | some entry =>
                obtain ⟨entry', rfl, _⟩ := Option.map_eq_some_iff.1 names.symm
                exact ih _ _
          · rw [one, two]

/-- The fault of an environment file is the same wherever the file is loaded. -/
theorem fault_load_eq (file : Content) : (first.load file).2 = (second.load file).2 :=
  fault_offerLines_eq first second _

end EventFeed.Environment
