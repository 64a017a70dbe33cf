import EventFeed.Command.Order

/-!
# Values that variables stand in for

A parameter that no word gives has the value of its variable, or else the usual one, if there is one. This is
all that an order takes from the environment.
-/

namespace EventFeed.Command

/-! ## Values -/

/-- The value that is used for a parameter when it has none. -/
def usual? (name : String) : Option Value :=
  if name = "host" then some (.text Client.Settings.usualHost)
  else if name = "port" then some (.number Client.Settings.usualPort)
  else if name = "timeout-secs" then some (.number usualTimeout)
  else if name = "metrics-port" then some (.number 0)
  else none

namespace Values

variable {values others : Values} {name : String}

def used? (values : Values) (name : String) : Option Value :=
  (values.find? name).or (usual? name)

theorem find?_append (values others : Values) (name : String) :
    (values ++ others : Values).find? name = (values.find? name).or (others.find? name) := by
  induction values with
  | nil => rfl
  | cons entry rest ih =>
      rw [List.cons_append, find?, find?, ih]
      split <;> rfl

theorem find?_concat_self (absent : values.has name = false) (value : Value) :
    (values ++ [(name, value)] : Values).find? name = some value := by
  have none : values.find? name = none := by simpa [has] using absent
  rw [find?_append, none, Option.none_or, find?, if_pos rfl]

theorem find?_concat_of_ne {other : String} (ne : other ≠ name) (values : Values) (value : Value) :
    (values ++ [(other, value)] : Values).find? name = values.find? name := by
  rw [find?_append, find?, if_neg ne, find?, Option.or_none]

end Values

theorem Reading.take_eq {values : Values} {parameter : Parameter} (absent : values.has parameter.name = false)
    (text : String) :
    take values parameter text =
      (parameter.form.read text).map fun value => values ++ [(parameter.name, value)] := by
  rw [take, absent, if_neg Bool.false_ne_true]
  cases parameter.form.read text <;> rfl

/-! ## Variables -/

/-- What stands for a parameter that no word gives: the value of its variable, or the usual one. -/
def Parameter.standing (parameter : Parameter) (environment : Environment) : Except Stop (Option Value) :=
  match parameter.fallback.bind environment.value? with
  | some text => (parameter.form.read text).map some
  | none => .ok (usual? parameter.name)

variable {environment : Environment} {parameter : Parameter} {parameters : List Parameter}
  {values taken : Values}

theorem takeVariables_of_has (given : values.has parameter.name = true) (environment : Environment)
    (rest : List Parameter) :
    takeVariables environment values (parameter :: rest) = takeVariables environment values rest := by
  rw [takeVariables, given]
  cases parameter.fallback.bind environment.value? <;> rfl

/-- A parameter without a value is used as what stands for it, and nothing else changes. -/
theorem takeVariables_of_absent (absent : values.has parameter.name = false) (environment : Environment)
    (rest : List Parameter) :
    (∃ stop, parameter.standing environment = .error stop ∧
        takeVariables environment values (parameter :: rest) = .error stop) ∨
      ∃ next : Values, parameter.standing environment = .ok (next.used? parameter.name) ∧
        takeVariables environment values (parameter :: rest) = takeVariables environment next rest ∧
        ∀ name, name ≠ parameter.name → next.find? name = values.find? name := by
  have none : values.find? parameter.name = none := by simpa [Values.has] using absent
  rw [takeVariables, absent, Parameter.standing]
  cases parameter.fallback.bind environment.value? with
  | none =>
      refine .inr ⟨values, ?_, rfl, fun _ _ => rfl⟩
      rw [Values.used?, none]
      rfl
  | some text =>
      dsimp only
      rw [Reading.take_eq absent]
      cases parameter.form.read text with
      | error stop => exact .inl ⟨stop, rfl, rfl⟩
      | ok value =>
          refine .inr ⟨values ++ [(parameter.name, value)], ?_, rfl, ?_⟩
          · rw [Values.used?, Values.find?_concat_self absent]
            rfl
          · intro name other
            exact Values.find?_concat_of_ne other.symm values value

/-- Where variables are taken to the end, a parameter had a value, or is used as what stands for it. -/
theorem cases_of_takeVariables {rest : List Parameter}
    (took : takeVariables environment values (parameter :: rest) = .ok taken) :
    (values.has parameter.name = true ∧ takeVariables environment values rest = .ok taken) ∨
      (values.has parameter.name = false ∧
        ∃ next : Values, parameter.standing environment = .ok (next.used? parameter.name) ∧
          takeVariables environment next rest = .ok taken ∧
          ∀ name, name ≠ parameter.name → next.find? name = values.find? name) := by
  cases given : values.has parameter.name with
  | true =>
      rw [takeVariables_of_has given] at took
      exact .inl ⟨rfl, took⟩
  | false =>
      rcases takeVariables_of_absent given environment rest with
        ⟨_, _, stopped⟩ | ⟨next, stands, goesOn, kept⟩
      · rw [stopped] at took
        cases took
      · rw [goesOn] at took
        exact .inr ⟨rfl, next, stands, took, kept⟩

/-- A value that is there stays. -/
theorem find?_takeVariables_of_some (took : takeVariables environment values parameters = .ok taken)
    {name : String} {value : Value} (found : values.find? name = some value) :
    taken.find? name = some value := by
  induction parameters generalizing values with
  | nil =>
      cases took
      exact found
  | cons parameter rest ih =>
      rcases cases_of_takeVariables took with ⟨_, goesOn⟩ | ⟨absent, next, _, goesOn, kept⟩
      · exact ih goesOn found
      · have other : name ≠ parameter.name := by
          rintro rfl
          rw [Values.has, found] at absent
          cases absent
        exact ih goesOn ((kept name other).trans found)

theorem find?_takeVariables_of_other (took : takeVariables environment values parameters = .ok taken)
    {name : String} (other : ∀ parameter ∈ parameters, name ≠ parameter.name) :
    taken.find? name = values.find? name := by
  induction parameters generalizing values with
  | nil =>
      cases took
      rfl
  | cons parameter rest ih =>
      obtain ⟨here, later⟩ := List.forall_mem_cons.1 other
      rcases cases_of_takeVariables took with ⟨_, goesOn⟩ | ⟨_, next, _, goesOn, kept⟩
      · exact ih goesOn later
      · exact (ih goesOn later).trans (kept name here)

/-- Parameters have names of their own. -/
def Distinct (parameters : List Parameter) : Prop :=
  parameters.Pairwise fun parameter other => parameter.name ≠ other.name

theorem has_eq_of_find?_eq {other : Values} {name : String} (same : values.find? name = other.find? name) :
    values.has name = other.has name :=
  congrArg Option.isSome same

/-- A parameter that no word gives is used as what stands for it. -/
theorem standing_of_takeVariables (distinct : Distinct parameters)
    (took : takeVariables environment values parameters = .ok taken) (inside : parameter ∈ parameters)
    (absent : values.has parameter.name = false) :
    parameter.standing environment = .ok (taken.used? parameter.name) := by
  induction parameters generalizing values with
  | nil => cases inside
  | cons first rest ih =>
      obtain ⟨others, later⟩ := List.pairwise_cons.1 distinct
      rcases cases_of_takeVariables took with ⟨given, goesOn⟩ | ⟨_, next, stands, goesOn, kept⟩
      · rcases List.mem_cons.1 inside with rfl | inRest
        · rw [absent] at given
          cases given
        · exact ih later goesOn inRest absent
      · rcases List.mem_cons.1 inside with rfl | inRest
        · have last := find?_takeVariables_of_other goesOn others
          rw [stands, Values.used?, Values.used?, last]
        · have same := kept parameter.name (others parameter inRest).symm
          exact ih later goesOn inRest ((has_eq_of_find?_eq same).trans absent)

/-- Variables are taken to the end if something stands for every parameter without a value. -/
theorem exists_takeVariables (distinct : Distinct parameters)
    (stand : ∀ parameter ∈ parameters, values.has parameter.name = false →
      ∃ value, parameter.standing environment = .ok value) :
    ∃ taken, takeVariables environment values parameters = .ok taken := by
  induction parameters generalizing values with
  | nil => exact ⟨values, rfl⟩
  | cons parameter rest ih =>
      obtain ⟨others, later⟩ := List.pairwise_cons.1 distinct
      obtain ⟨standHere, standLater⟩ := List.forall_mem_cons.1 stand
      cases given : values.has parameter.name with
      | true =>
          rw [takeVariables_of_has given]
          exact ih later standLater
      | false =>
          rcases takeVariables_of_absent given environment rest with
            ⟨stop, stops, _⟩ | ⟨next, _, goesOn, kept⟩
          · obtain ⟨value, stands⟩ := standHere given
            rw [stops] at stands
            cases stands
          · rw [goesOn]
            apply ih later
            intro entry inRest absent
            rw [has_eq_of_find?_eq (kept _ (others entry inRest).symm)] at absent
            exact standLater entry inRest absent

/-- Environments in which the same stands for all parameters without a value leave the same to be used. -/
theorem takeVariables_alike {first second : Environment} {other : Values} (distinct : Distinct parameters)
    (alike : ∀ name, values.used? name = other.used? name)
    (given : ∀ parameter ∈ parameters, values.has parameter.name = other.has parameter.name)
    (stand : ∀ parameter ∈ parameters, values.has parameter.name = false →
      parameter.standing first = parameter.standing second) :
    (∃ stop, takeVariables first values parameters = .error stop ∧
        takeVariables second other parameters = .error stop) ∨
      ∃ taken taken', takeVariables first values parameters = .ok taken ∧
        takeVariables second other parameters = .ok taken' ∧ ∀ name, taken.used? name = taken'.used? name := by
  induction parameters generalizing values other with
  | nil => exact .inr ⟨values, other, rfl, rfl, alike⟩
  | cons parameter rest ih =>
      obtain ⟨others, later⟩ := List.pairwise_cons.1 distinct
      obtain ⟨givenHere, givenLater⟩ := List.forall_mem_cons.1 given
      obtain ⟨standHere, standLater⟩ := List.forall_mem_cons.1 stand
      cases here : values.has parameter.name with
      | true =>
          rw [takeVariables_of_has here, takeVariables_of_has (givenHere ▸ here)]
          exact ih later alike givenLater standLater
      | false =>
          -- What stands is the same, so both sides stop here with one fault or both go on.
          have same := standHere here
          rcases takeVariables_of_absent here first rest with
            ⟨stop, stands, stopped⟩ | ⟨next, stands, goesOn, kept⟩ <;>
          rcases takeVariables_of_absent (givenHere ▸ here) second rest with
            ⟨stop', stands', stopped'⟩ | ⟨next', stands', goesOn', kept'⟩
          · rw [stands, stands'] at same
            cases same
            exact .inl ⟨stop, stopped, stopped'⟩
          · rw [stands, stands'] at same
            cases same
          · rw [stands, stands'] at same
            cases same
          · rw [stands, stands'] at same
            rw [goesOn, goesOn']
            apply ih later
            · intro name
              by_cases its : name = parameter.name
              · rw [its]
                exact Except.ok.inj same
              · have old := alike name
                rw [Values.used?, Values.used?] at old ⊢
                rw [kept name its, kept' name its]
                exact old
            · intro entry inRest
              have its := (others entry inRest).symm
              rw [has_eq_of_find?_eq (kept _ its), has_eq_of_find?_eq (kept' _ its)]
              exact givenLater entry inRest
            · intro entry inRest absent
              rw [has_eq_of_find?_eq (kept _ (others entry inRest).symm)] at absent
              exact standLater entry inRest absent

/-! ## What an order takes from values -/

namespace Values

variable {others : Values} {name : String}

theorem find?_eq_of_used?_eq (same : values.used? name = others.used? name) (none : usual? name = none) :
    values.find? name = others.find? name := by
  rw [used?, used?, none, Option.or_none, Option.or_none] at same
  exact same

/-- A count is the number that is used. -/
theorem countOr_eq {usual : Nat} (known : usual? name = some (.number usual) ∨ usual? name = none) :
    values.countOr name usual =
      match values.used? name with
      | some (.number number) => number.toNat
      | _ => usual := by
  rw [countOr, number?, used?]
  cases values.find? name with
  | some value => cases value <;> rfl
  | none => rcases known with known | known <;> rw [known] <;> rfl

theorem host_eq (values : Values) :
    values.cluster.host =
      match values.used? "host" with
      | some (.text text) => text
      | _ => Client.Settings.usualHost := by
  rw [cluster, text?, used?]
  cases values.find? "host" with
  | some value => cases value <;> rfl
  | none => rfl

theorem countOr_eq_of_used?_eq (alike : ∀ name, values.used? name = others.used? name) {name : String}
    {usual : Nat} (known : usual? name = some (.number usual) ∨ usual? name = none) :
    values.countOr name usual = others.countOr name usual := by
  rw [countOr_eq known, countOr_eq known, alike]

theorem cluster_eq_of_used?_eq (alike : ∀ name, values.used? name = others.used? name) :
    values.cluster = others.cluster := by
  have host : values.cluster.host = others.cluster.host := by rw [host_eq, host_eq, alike]
  unfold cluster at host ⊢
  rw [Client.Settings.mk.injEq]
  refine ⟨host, ?_, ?_⟩
  · exact countOr_eq_of_used?_eq alike (.inl rfl)
  · rw [countOr_eq_of_used?_eq alike (.inl rfl)]

theorem insertJob_eq_of_used?_eq (alike : ∀ name, values.used? name = others.used? name) :
    values.insertJob = others.insertJob := by
  have count : ∀ name (usual : Nat), usual? name = none →
      values.countOr name usual = others.countOr name usual := by
    intro name usual unusual
    exact countOr_eq_of_used?_eq alike (.inr unusual)
  have text : values.needText "table" = others.needText "table" := by
    rw [needText, needText, text?, text?, find?_eq_of_used?_eq (alike "table") rfl]
  have path : ∀ name, usual? name = none → values.path? name = others.path? name := by
    intro name unusual
    rw [path?, path?, find?_eq_of_used?_eq (alike name) unusual]
  have input : values.needPath "json" = others.needPath "json" := by
    rw [needPath, needPath, path "json" rfl]
  rw [insertJob, insertJob, text, input, path "dotenv" rfl, count "batch-size" _ rfl,
    count "high-watermark" _ rfl, count "resume-watermark" _ rfl, count "low-batch-threshold" _ rfl,
    count "poll-ms" _ rfl, countOr_eq_of_used?_eq alike (.inl rfl)]

end Values

end EventFeed.Command
