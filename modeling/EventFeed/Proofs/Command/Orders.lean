import EventFeed.Proofs.Command.Standing

/-!
# What an order tells of its values

A run of insertions is ordered from the values of words and variables. Which order it is depends on nothing
but the values that are used, and the order tells them again. So two environments make one order of the same
words exactly if the same stands in both for every parameter that no word gives.
-/

namespace EventFeed.Command

/-! ## Values of a form -/

def Form.Has : Form → Value → Prop
  | .help, value | .flag, value => value = .given
  | .text, value => ∃ text, value = .text text
  | .path, value => ∃ path, value = .path path
  | .signed least most, value => ∃ number, value = .number number ∧ least ≤ number ∧ number ≤ most
  | .unsigned most, value => ∃ number : Nat, value = .number number ∧ number ≤ most

theorem Form.has_of_read {form : Form} {text : String} {value : Value} (read : form.read text = .ok value) :
    form.Has value := by
  cases form with
  | help => exact (Except.ok.inj read).symm
  | flag => exact (Except.ok.inj read).symm
  | text => exact ⟨text, (Except.ok.inj read).symm⟩
  | path =>
      rw [Form.read] at read
      split at read
      · cases read
      · exact ⟨_, (Except.ok.inj read).symm⟩
  | signed least most =>
      rw [Form.read] at read
      split at read
      · split at read
        · exact ⟨_, (Except.ok.inj read).symm, ‹_›⟩
        · cases read
      · cases read
  | unsigned most =>
      rw [Form.read] at read
      split at read
      · split at read
        · exact ⟨_, (Except.ok.inj read).symm, ‹_›⟩
        · cases read
      · cases read

variable {environment : Environment} {parameter : Parameter} {values others taken : Values}

/-- What stands for a parameter with a variable is of its form, unless it is the usual value. -/
theorem Parameter.usual_or_has {value : Value} (stands : parameter.standing environment = .ok (some value)) :
    usual? parameter.name = some value ∨ parameter.form.Has value := by
  rw [standing] at stands
  split at stands
  · next text found =>
      cases read : parameter.form.read text with
      | error stop =>
          rw [read] at stands
          cases stands
      | ok other =>
          rw [read] at stands
          obtain rfl : other = value := Option.some.inj (Except.ok.inj stands)
          exact .inr (Form.has_of_read read)
  · exact .inl (Except.ok.inj stands)

/-- Without a variable the usual value stands for a parameter everywhere. -/
theorem Parameter.standing_of_fallback_eq_none (alone : parameter.fallback = none)
    (environment : Environment) : parameter.standing environment = .ok (usual? parameter.name) := by
  rw [standing, alone]
  rfl

/-! ## From values to orders -/

def Tool.orderFrom (tool : Tool) (values : Values) : Except Stop Order :=
  if tool.parameters.all fun parameter => !parameter.required || values.has parameter.name then do
    return ⟨values.cluster, ← values.job tool⟩
  else .error .missingParameter

/-- The values that words alone give to the parameters of a tool. -/
def Tool.given (tool : Tool) (words : List String) : Except Stop Values :=
  Reading.takeWords tool.parameters ⟨[], none⟩ words

theorem Tool.order_eq (tool : Tool) (environment : Environment) (words : List String) :
    tool.order environment words = tool.given words >>= fun values =>
      takeVariables environment values tool.parameters >>= tool.orderFrom := by
  unfold order readValues given
  cases Reading.takeWords tool.parameters ⟨[], none⟩ words with
  | error stop => rfl
  | ok values =>
      dsimp only
      change _ = takeVariables environment values tool.parameters >>= tool.orderFrom
      cases takeVariables environment values tool.parameters with
      | error stop => rfl
      | ok taken =>
          change _ = tool.orderFrom taken
          unfold orderFrom
          dsimp only
          cases tool.parameters.all fun parameter => !parameter.required || taken.has parameter.name <;> rfl

/-! ## Orders of insertions -/

namespace Values

variable {name : String}

theorem text?_eq_some {text : String} : values.text? name = some text ↔ values.find? name = some (.text text) := by
  rw [text?]
  cases values.find? name with
  | none => simp
  | some value => cases value <;> simp

theorem path?_eq_some {path : Path} : values.path? name = some path ↔ values.find? name = some (.path path) := by
  rw [path?]
  cases values.find? name with
  | none => simp
  | some value => cases value <;> simp

/-- A run of insertions needs a table and an input, and keeps what it was told. -/
theorem of_insertJob {job : InsertJob} (made : values.insertJob = .ok job) :
    values.find? "table" = some (.text job.settings.table) ∧
      values.find? "json" = some (.path job.settings.input) ∧
      job.metricsPort = values.countOr "metrics-port" 0 ∧ job.envFile = values.path? "dotenv" := by
  unfold insertJob needText needPath at made
  cases table : values.text? "table" with
  | none =>
      rw [table] at made
      cases made
  | some text =>
      cases input : values.path? "json" with
      | none =>
          rw [table, input] at made
          cases made
      | some path =>
          rw [table, input] at made
          cases made
          exact ⟨text?_eq_some.1 table, path?_eq_some.1 input, rfl, rfl⟩

theorem exists_insertJob {text : String} {path : Path} (table : values.find? "table" = some (.text text))
    (input : values.find? "json" = some (.path path)) : ∃ job, values.insertJob = .ok job := by
  unfold insertJob needText needPath
  rw [text?_eq_some.2 table, path?_eq_some.2 input]
  exact ⟨_, rfl⟩

end Values

theorem distinct_insert : Distinct Tool.insert.parameters := by
  unfold Distinct
  decide

/-- A run of insertions cannot do without its table and its input. -/
theorem insert_required : ∀ parameter ∈ Tool.insert.parameters, parameter.required = true →
    usual? parameter.name = none ∧ (parameter.name = "table" ∨ parameter.name = "json") := by
  decide

/-- Variables stand in for the cluster, the table, and the port for metrics. -/
theorem insert_replaced : ∀ parameter ∈ Tool.insert.parameters, parameter.fallback ≠ none →
    parameter = shared "host" (some 'h') .text "OPENSET_HOST" ∨
      parameter = shared "port" (some 'p') .port "OPENSET_PORT" ∨
        parameter = shared "timeout-secs" none .count "OPENSET_TIMEOUT_SECS" ∨
          parameter = ⟨"table", some 't', .text, some "OPENSET_TABLE", true⟩ ∨
            parameter = shared "metrics-port" none .port "OPENSET_METRICS_PORT" := by
  decide

theorem of_orderFrom {order : Order} (made : Tool.insert.orderFrom values = .ok order) :
    order.cluster = values.cluster ∧ ∃ job, values.insertJob = .ok job ∧ order.job = .insert job := by
  unfold Tool.orderFrom at made
  split at made
  · unfold Values.job at made
    cases formed : values.insertJob with
    | error stop =>
        rw [formed] at made
        cases made
    | ok job =>
        rw [formed] at made
        cases made
        exact ⟨rfl, job, rfl, rfl⟩
  · cases made

/-- Values make an order of insertions exactly if they have a table and an input. -/
theorem exists_orderFrom_iff :
    (∃ order, Tool.insert.orderFrom values = .ok order) ↔
      (∃ text, values.find? "table" = some (.text text)) ∧ ∃ path, values.find? "json" = some (.path path) := by
  constructor
  · rintro ⟨order, made⟩
    obtain ⟨_, job, formed, _⟩ := of_orderFrom made
    obtain ⟨table, input, _, _⟩ := Values.of_insertJob formed
    exact ⟨⟨_, table⟩, ⟨_, input⟩⟩
  · rintro ⟨⟨text, table⟩, ⟨path, input⟩⟩
    obtain ⟨job, formed⟩ := Values.exists_insertJob table input
    refine ⟨⟨values.cluster, .insert job⟩, ?_⟩
    have every : (Tool.insert.parameters.all fun parameter =>
        !parameter.required || values.has parameter.name) = true := by
      simp [Tool.parameters, clusterParameters, Tool.ownParameters, shared, required, optional, Values.has,
        table, input]
    rw [Tool.orderFrom, if_pos every, Values.job, formed]
    rfl

theorem orderFrom_eq_of_used?_eq (alike : ∀ name, values.used? name = others.used? name) :
    Tool.insert.orderFrom values = Tool.insert.orderFrom others := by
  have every : (Tool.insert.parameters.all fun parameter => !parameter.required || values.has parameter.name) =
      Tool.insert.parameters.all fun parameter => !parameter.required || others.has parameter.name := by
    rw [Bool.eq_iff_iff, List.all_eq_true, List.all_eq_true]
    apply forall₂_congr
    intro parameter inside
    cases needed : parameter.required with
    | false => rfl
    | true =>
        have same := Values.find?_eq_of_used?_eq (alike parameter.name) (insert_required parameter inside needed).1
        rw [has_eq_of_find?_eq same]
  unfold Tool.orderFrom Values.job
  dsimp only
  rw [every, Values.cluster_eq_of_used?_eq alike, Values.insertJob_eq_of_used?_eq alike]

/-! ## Orders in different environments -/

section

variable {words : List String} {first second : Environment} {order : Order}

/-- Words that make an order give values, and variables add to them what the order is made from. -/
theorem exists_taken (made : Tool.insert.order environment words = .ok order) :
    ∃ values taken, Tool.insert.given words = .ok values ∧
      takeVariables environment values Tool.insert.parameters = .ok taken ∧
        Tool.insert.orderFrom taken = .ok order := by
  rw [Tool.order_eq] at made
  cases given : Tool.insert.given words with
  | error stop =>
      rw [given] at made
      cases made
  | ok values =>
      rw [given] at made
      change takeVariables environment values Tool.insert.parameters >>= Tool.insert.orderFrom = _ at made
      cases filled : takeVariables environment values Tool.insert.parameters with
      | error stop =>
          rw [filled] at made
          cases made
      | ok taken =>
          rw [filled] at made
          exact ⟨values, taken, rfl, filled, made⟩

/-- The words can be taken, and none of them gives a parameter. -/
def LeavesOpen (words : List String) (parameter : Parameter) : Prop :=
  parameter ∈ Tool.insert.parameters ∧
    ∃ values, Tool.insert.given words = .ok values ∧ values.has parameter.name = false

theorem leavesOpen_iff (given : Tool.insert.given words = .ok values) :
    LeavesOpen words parameter ↔ parameter ∈ Tool.insert.parameters ∧ values.has parameter.name = false := by
  constructor
  · rintro ⟨inside, values', given', absent⟩
    obtain rfl := Except.ok.inj (given.symm.trans given')
    exact ⟨inside, absent⟩
  · rintro ⟨inside, absent⟩
    exact ⟨inside, values, given, absent⟩

/-- What the variables leave to be used for a parameter that no word gives stands for it. -/
theorem LeavesOpen.standing_eq (open' : LeavesOpen words parameter) (given : Tool.insert.given words = .ok values)
    (filled : takeVariables environment values Tool.insert.parameters = .ok taken) :
    parameter.standing environment = .ok (taken.used? parameter.name) := by
  obtain ⟨inside, absent⟩ := (leavesOpen_iff given).1 open'
  exact standing_of_takeVariables distinct_insert filled inside absent

/-- Environments in which the same stands for all parameters that no word gives make the same of words. -/
theorem order_eq_of_standing_eq
    (alike : ∀ parameter, LeavesOpen words parameter → parameter.standing first = parameter.standing second) :
    Tool.insert.order first words = Tool.insert.order second words := by
  rw [Tool.order_eq, Tool.order_eq]
  cases given : Tool.insert.given words with
  | error stop => rfl
  | ok values =>
      change takeVariables first values Tool.insert.parameters >>= _ =
        takeVariables second values Tool.insert.parameters >>= _
      rcases takeVariables_alike distinct_insert (fun _ => rfl) (fun _ _ => rfl) fun parameter inside absent =>
        alike parameter ((leavesOpen_iff given).2 ⟨inside, absent⟩) with
        ⟨stop, here, there⟩ | ⟨taken, taken', here, there, used⟩
      · rw [here, there]
      · rw [here, there]
        exact orderFrom_eq_of_used?_eq used

/-- Something stands for a parameter, at least a usual value if it has to be there. -/
def Parameter.Stands (parameter : Parameter) (environment : Environment) : Prop :=
  ∃ value, parameter.standing environment = .ok value ∧ (parameter.required → value ≠ none)

instance (parameter : Parameter) (environment : Environment) : Decidable (parameter.Stands environment) :=
  match stands : parameter.standing environment with
  | .error _ => isFalse fun ⟨_, found, _⟩ => by rw [stands] at found; cases found
  | .ok value => decidable_of_iff (parameter.required → value ≠ none) (by simp [Parameter.Stands, stands])

/-- A value that has to be there and is there in one environment is there in another if something stands for it. -/
theorem exists_needed {here there : Values} {value : Value} (given : Tool.insert.given words = .ok values)
    (filled : takeVariables first values Tool.insert.parameters = .ok here)
    (filled' : takeVariables second values Tool.insert.parameters = .ok there)
    (stand : ∀ parameter, LeavesOpen words parameter → parameter.Stands second)
    (inside : parameter ∈ Tool.insert.parameters) (needed : parameter.required = true)
    (found : here.find? parameter.name = some value) (has : parameter.form.Has value) :
    ∃ other, there.find? parameter.name = some other ∧ parameter.form.Has other := by
  have unusual := (insert_required parameter inside needed).1
  cases told : values.find? parameter.name with
  | some word =>
      rw [find?_takeVariables_of_some filled told] at found
      obtain rfl := Option.some.inj found
      exact ⟨word, find?_takeVariables_of_some filled' told, has⟩
  | none =>
      have open' : LeavesOpen words parameter := by
        apply (leavesOpen_iff given).2
        rw [Values.has, told]
        exact ⟨inside, rfl⟩
      -- No usual value helps out, so what stands is what the variable gave, in the parameter's form.
      obtain ⟨stood, stands, needs⟩ := stand parameter open'
      have used := open'.standing_eq given filled'
      rw [Values.used?, unusual, Option.or_none] at used
      obtain ⟨other, rfl⟩ := Option.ne_none_iff_exists'.1 (needs needed)
      refine ⟨other, Except.ok.inj (used.symm.trans stands), ?_⟩
      rcases Parameter.usual_or_has stands with usual | has
      · rw [unusual] at usual
        cases usual
      · exact has

/-- Words that make an order in one environment make one in another exactly if something stands there for
every parameter that no word gives. -/
theorem exists_order_iff (made : Tool.insert.order first words = .ok order) :
    (∃ other, Tool.insert.order second words = .ok other) ↔
      ∀ parameter, LeavesOpen words parameter → parameter.Stands second := by
  constructor
  · rintro ⟨other, makes⟩ parameter open'
    obtain ⟨values, taken, given, filled, makes⟩ := exists_taken makes
    refine ⟨_, open'.standing_eq given filled, ?_⟩
    intro needed
    obtain ⟨⟨text, table⟩, path, input⟩ := exists_orderFrom_iff.1 ⟨other, makes⟩
    rcases (insert_required parameter open'.1 needed).2 with name | name
    · rw [name, Values.used?, table]
      exact Option.some_ne_none _
    · rw [name, Values.used?, input]
      exact Option.some_ne_none _
  · intro stand
    obtain ⟨values, here, given, filled, makes⟩ := exists_taken made
    obtain ⟨⟨text, table⟩, path, input⟩ := exists_orderFrom_iff.1 ⟨order, makes⟩
    obtain ⟨there, filled'⟩ := exists_takeVariables distinct_insert fun parameter inside absent =>
      (stand parameter ((leavesOpen_iff given).2 ⟨inside, absent⟩)).imp fun _ stands => stands.1
    have tableInside : (⟨"table", some 't', .text, some "OPENSET_TABLE", true⟩ : Parameter) ∈
        Tool.insert.parameters := by decide
    have inputInside : required "json" 'j' .path ∈ Tool.insert.parameters := by decide
    obtain ⟨_, table', text', rfl⟩ := exists_needed given filled filled' stand tableInside rfl table ⟨text, rfl⟩
    obtain ⟨_, input', path', rfl⟩ := exists_needed given filled filled' stand inputInside rfl input ⟨path, rfl⟩
    obtain ⟨other, makes'⟩ := exists_orderFrom_iff.2 ⟨⟨text', table'⟩, path', input'⟩
    refine ⟨other, ?_⟩
    rw [Tool.order_eq, given]
    change takeVariables second values Tool.insert.parameters >>= Tool.insert.orderFrom = _
    rw [filled']
    exact makes'

/-- A count with a usual value is a natural number. -/
theorem used?_count {usual : Nat}
    (stands : parameter.standing environment = .ok (values.used? parameter.name))
    (known : usual? parameter.name = some (.number usual))
    (counts : ∀ value, parameter.form.Has value → ∃ number : Nat, value = .number number) :
    values.used? parameter.name = some (.number (values.countOr parameter.name usual)) := by
  obtain ⟨value, used⟩ : ∃ value, values.used? parameter.name = some value := by
    rw [Values.used?, known]
    cases values.find? parameter.name with
    | none => exact ⟨_, rfl⟩
    | some value => exact ⟨value, rfl⟩
  rw [used] at stands
  obtain ⟨number, rfl⟩ : ∃ number : Nat, value = .number number := by
    rcases Parameter.usual_or_has stands with same | has
    · rw [known] at same
      exact ⟨usual, (Option.some.inj same).symm⟩
    · exact counts value has
  rw [Values.countOr_eq (.inl known), used]
  rfl

theorem port_counts (value : Value) (has : Form.port.Has value) : ∃ number : Nat, value = .number number := by
  obtain ⟨number, rfl, low, _⟩ := has
  obtain ⟨number, rfl⟩ := Int.eq_ofNat_of_zero_le low
  exact ⟨number, rfl⟩

theorem count_counts (value : Value) (has : Form.count.Has value) : ∃ number : Nat, value = .number number :=
  has.imp fun _ its => its.1

theorem used?_host {letter : Option Char} {fallback : String}
    (stands : (shared "host" letter .text fallback).standing environment = .ok (values.used? "host")) :
    values.used? "host" = some (.text values.cluster.host) := by
  have known : usual? "host" = some (.text Client.Settings.usualHost) := rfl
  rw [Values.host_eq]
  cases used : values.used? "host" with
  | none =>
      rw [Values.used?, known, Option.or_eq_none_iff] at used
      cases used.2
  | some value =>
      rw [used] at stands
      rcases Parameter.usual_or_has stands with same | ⟨text, rfl⟩
      · obtain rfl := Option.some.inj (known.symm.trans same)
        rfl
      · rfl

/-- What an order of insertions tells of a parameter with a variable. -/
def told (cluster : Client.Settings) (job : InsertJob) (name : String) : Value :=
  if name = "host" then .text cluster.host
  else if name = "port" then .number cluster.port
  else if name = "timeout-secs" then .number cluster.timeout.seconds
  else if name = "metrics-port" then .number job.metricsPort
  else .text job.settings.table

/-- An order tells what stood for the parameters that no word gave. -/
theorem standing_eq_told {job : InsertJob} (made : Tool.insert.order environment words = .ok order)
    (inserts : order.job = .insert job) (open' : LeavesOpen words parameter)
    (replaced : parameter.fallback ≠ none) :
    parameter.standing environment = .ok (some (told order.cluster job parameter.name)) := by
  obtain ⟨values, taken, given, filled, makes⟩ := exists_taken made
  obtain ⟨cluster, job', formed, inserts'⟩ := of_orderFrom makes
  obtain rfl : job = job' := Job.insert.inj (inserts.symm.trans inserts')
  obtain ⟨table, _, metrics, _⟩ := Values.of_insertJob formed
  have stands := open'.standing_eq given filled
  rw [stands, cluster]
  congr 1
  rcases insert_replaced parameter open'.1 replaced with rfl | rfl | rfl | rfl | rfl
  · exact used?_host stands
  · exact used?_count stands rfl port_counts
  · exact used?_count stands rfl count_counts
  · rw [Values.used?, table]
    rfl
  · rw [used?_count stands rfl port_counts]
    change some (Value.number (taken.countOr "metrics-port" 0 : Nat)) = some (Value.number job.metricsPort)
    rw [metrics]

/-- In environments that make the same order of words, the same stands for every parameter that no word gives. -/
theorem standing_eq_of_order_eq (here : Tool.insert.order first words = .ok order)
    (there : Tool.insert.order second words = .ok order) (open' : LeavesOpen words parameter) :
    parameter.standing first = parameter.standing second := by
  by_cases replaced : parameter.fallback = none
  · rw [Parameter.standing_of_fallback_eq_none replaced, Parameter.standing_of_fallback_eq_none replaced]
  · obtain ⟨_, taken, _, _, makes⟩ := exists_taken here
    obtain ⟨_, job, _, inserts⟩ := of_orderFrom makes
    rw [standing_eq_told here inserts open' replaced, standing_eq_told there inserts open' replaced]

/-- Words that are read once more in another environment make the order that a third one makes exactly if
something stands in the first one for every parameter that no word gives, and the same in the other two. -/
theorem orders_eq_ok_iff {third : Environment} (made : Tool.insert.order third words = .ok order) :
    ((Tool.insert.order first words >>= fun _ => Tool.insert.order second words) = .ok order) ↔
      ∀ parameter, LeavesOpen words parameter →
        parameter.Stands first ∧ parameter.standing second = parameter.standing third := by
  constructor
  · intro both parameter open'
    cases here : Tool.insert.order first words with
    | error stop =>
        rw [here] at both
        cases both
    | ok once =>
        rw [here] at both
        have stands := (exists_order_iff made).1 ⟨once, here⟩ parameter open'
        exact ⟨stands, standing_eq_of_order_eq both made open'⟩
  · intro every
    obtain ⟨once, here⟩ := (exists_order_iff made).2 fun parameter open' => (every parameter open').1
    rw [here, order_eq_of_standing_eq fun parameter open' => (every parameter open').2, made]
    rfl

end

end EventFeed.Command
