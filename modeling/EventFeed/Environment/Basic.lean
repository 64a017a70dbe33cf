/-!
# Environments

The variables a command sees. A variable that is set stays as it is: what is offered later counts only for
names that have no value yet.
-/

namespace EventFeed

abbrev Environment : Type := List (String × String)

namespace Environment

def value? (name : String) : Environment → Option String
  | [] => none
  | (other, value) :: rest => if other = name then some value else value? name rest

/-- The value of a variable, nothing if it is not set. -/
def valueOrNothing (environment : Environment) (name : String) : String :=
  (environment.value? name).getD ""

/-- Sets a variable unless it is set. -/
def offer (environment : Environment) (name value : String) : Environment :=
  match environment.value? name with
  | some _ => environment
  | none => environment ++ [(name, value)]

theorem value?_append (name : String) (first second : Environment) :
    (first ++ second : Environment).value? name = (first.value? name).or (second.value? name) := by
  induction first with
  | nil => rfl
  | cons entry rest ih =>
      rw [List.cons_append, value?, value?, ih]
      split <;> rfl

/-- What is offered is found where nothing was set before, and changes nothing else. -/
theorem value?_offer (environment : Environment) (name value other : String) :
    (environment.offer name value).value? other =
      (environment.value? other).or (if name = other then some value else none) := by
  unfold offer
  split
  · next held found =>
      split
      · next same => subst same; rw [found]; rfl
      · rw [Option.or_none]
  · rw [value?_append]; rfl

end Environment

end EventFeed
