import EventFeed.Proofs.Client.Exchange

/-!
# Counters of calls

What a caller wishes is refused on the spot if it names a wrong table, or if its events make no batch: nothing is
sent then, and nothing is counted. Every other wish becomes a call, which is counted once under the route of its
operation, and once more if it fails. So after any number of wishes the counters of a route tell how many of its
calls reached sending, and how many of these failed.
-/

namespace EventFeed.Client

variable {base : Url} {world : World} {arrived : Nat} {metrics before between later : Metrics}

/-! ## What is counted -/

/-- For every route its requests and its errors went up by so much, and nothing else changed. -/
structure Counted (requests errors : String → Nat) (before later : Metrics) : Prop where
  requests : ∀ route, later.counter ⟨Series.requests, some route⟩ =
    before.counter ⟨Series.requests, some route⟩ + UInt64.ofNat (requests route)
  errors : ∀ route, later.counter ⟨Series.requestErrors, some route⟩ =
    before.counter ⟨Series.requestErrors, some route⟩ + UInt64.ofNat (errors route)
  others : ∀ key, (∀ route, key ≠ ⟨Series.requests, some route⟩ ∧ key ≠ ⟨Series.requestErrors, some route⟩) →
    later.counter key = before.counter key
  gauges : ∀ name, later.gauge? name = before.gauge? name

namespace Counted

variable {requests errors moreRequests moreErrors : String → Nat}

theorem refl (metrics : Metrics) : Counted (fun _ => 0) (fun _ => 0) metrics metrics where
  requests _ := (UInt64.add_zero _).symm
  errors _ := (UInt64.add_zero _).symm
  others _ _ := rfl
  gauges _ := rfl

theorem trans (first : Counted requests errors before between)
    (second : Counted moreRequests moreErrors between later) :
    Counted (fun route => requests route + moreRequests route) (fun route => errors route + moreErrors route)
      before later where
  requests route := by rw [second.requests, first.requests, UInt64.ofNat_add, UInt64.add_assoc]
  errors route := by rw [second.errors, first.errors, UInt64.ofNat_add, UInt64.add_assoc]
  others key apart := (second.others key apart).trans (first.others key apart)
  gauges name := (second.gauges name).trans (first.gauges name)

end Counted

/-- One for a route, if something is so, and nothing for the other ones. -/
def once (route : String) (counts : Bool) (asked : String) : Nat :=
  if asked = route ∧ counts = true then 1 else 0

theorem counter_incrementRoute (metrics : Metrics) (name route asked : String) :
    (metrics.incrementRoute name route).counter ⟨name, some asked⟩ =
      metrics.counter ⟨name, some asked⟩ + UInt64.ofNat (once route true asked) := by
  unfold Metrics.incrementRoute once
  by_cases same : asked = route
  · rw [same, Metrics.counter_add_self, if_pos ⟨rfl, rfl⟩]
  · rw [Metrics.counter_add_of_ne _ (by simpa using same), if_neg fun both => same both.1]
    exact (UInt64.add_zero _).symm

theorem counter_incrementRoute_of_ne {name : String} {key : CounterKey} (metrics : Metrics) (route : String)
    (different : key ≠ ⟨name, some route⟩) : (metrics.incrementRoute name route).counter key = metrics.counter key :=
  Metrics.counter_add_of_ne metrics different 1

theorem counted_request (metrics : Metrics) (route : String) :
    Counted (once route true) (fun _ => 0) metrics (metrics.incrementRoute Series.requests route) where
  requests := counter_incrementRoute metrics Series.requests route
  errors asked := by
    rw [counter_incrementRoute_of_ne _ _ (by simp [Series.requests, Series.requestErrors])]
    exact (UInt64.add_zero _).symm
  others key apart := counter_incrementRoute_of_ne _ _ (apart route).1
  gauges name := Metrics.gauge?_add _ _ _ name

theorem counted_error (metrics : Metrics) (route : String) :
    Counted (fun _ => 0) (once route true) metrics (metrics.incrementRoute Series.requestErrors route) where
  requests asked := by
    rw [counter_incrementRoute_of_ne _ _ (by simp [Series.requests, Series.requestErrors])]
    exact (UInt64.add_zero _).symm
  errors := counter_incrementRoute metrics Series.requestErrors route
  others key apart := counter_incrementRoute_of_ne _ _ (apart route).2
  gauges name := Metrics.gauge?_add _ _ _ name

/-- A call that reached sending is counted under its route, and its failure too. -/
theorem counted_tally (route : String) (result : Except Failure Json) (metrics : Metrics) :
    Counted (once route true) (once route !result.isOk) metrics (tally route result metrics) := by
  have request := counted_request metrics route
  cases result with
  | ok value =>
      have nothing : once route false = fun _ => 0 := funext fun asked => if_neg fun both => nomatch both.2
      exact nothing ▸ request
  | error failure =>
      have both := request.trans (counted_error _ route)
      simp only [Nat.add_zero, Nat.zero_add] at both
      exact both

/-! ## Wishes -/

/-- What a caller wants of the cluster: a call, or that some events are inserted, which are no batch yet. -/
inductive Wish where
  | asking (call : Call)
  | inserting (table : String) (events : List Event)

namespace Wish

def table? : Wish → Option String
  | .asking call => call.table?
  | .inserting table _ => some table

/-- The call that becomes of a wish, unless it is refused. -/
def toCall : Wish → Except Refusal Call
  | .asking call =>
      match call.table? with
      | none => .ok call
      | some table => (TableName.check table).map fun _ => call
  | .inserting table events => (Batch.make table events).map Call.insert

def route? (wish : Wish) : Option String :=
  wish.toCall.toOption.map Call.route

def perform (base : Url) : Wish → Metrics → Errand (Except Failure Json × Metrics)
  | .asking call, metrics => Client.perform base call metrics
  | .inserting table events, metrics =>
      match Batch.make table events with
      | .error refusal => .done (.error (.refused refusal), metrics)
      | .ok batch => Client.perform base (.insert batch) metrics

variable {wish : Wish} {call : Call} {refusal : Refusal} {table : String}

theorem toCall_of_check (named : wish.table? = some table) (wrong : TableName.check table = .error refusal) :
    wish.toCall = .error refusal := by
  cases wish with
  | asking call =>
      dsimp only [table?, toCall] at named ⊢
      rw [named]
      dsimp only
      rw [wrong]
      rfl
  | inserting other events =>
      obtain rfl : other = table := Option.some.inj named
      dsimp only [toCall, Batch.make]
      rw [wrong]
      rfl

theorem toCall_asking (right : ∀ table, call.table? = some table → ∃ name, TableName.check table = .ok name) :
    (asking call).toCall = .ok call := by
  dsimp only [toCall]
  cases named : call.table? with
  | none => rfl
  | some table =>
      obtain ⟨name, checked⟩ := right table named
      dsimp only
      rw [checked]
      rfl

theorem toCall_inserting {name : TableName} {events : List Event} (right : TableName.check table = .ok name)
    (nonempty : events ≠ []) (small : events.length ≤ maxBatchSize) :
    (inserting table events).toCall = .ok (.insert ⟨name, events, nonempty, small⟩) := by
  dsimp only [toCall]
  rw [Batch.make_of_check right nonempty small]
  rfl

/-- A wish is refused on the spot, or its call is sent and counted. -/
theorem perform_eq (base : Url) (wish : Wish) (metrics : Metrics) :
    wish.perform base metrics =
      match wish.toCall with
      | .error refusal => .done (.error (.refused refusal), metrics)
      | .ok call =>
          (exchange Http.maxRedirects (call.toRequest base)).bind fun response =>
            .done (outcome response, tally call.route (outcome response) metrics) := by
  cases wish with
  | asking call =>
      dsimp only [perform, Client.perform, Call.request, toCall]
      cases call.table? with
      | none => rfl
      | some table =>
          dsimp only
          cases TableName.check table with
          | ok name => rfl
          | error refusal => rfl
  | inserting table events =>
      dsimp only [perform, toCall]
      cases Batch.make table events with
      | ok batch => rfl
      | error refusal => rfl

theorem runFrom_of_refused (refused : wish.toCall = .error refusal) (base : Url) (metrics : Metrics) (world : World)
    (arrived : Nat) :
    (wish.perform base metrics).runFrom world arrived = ([], .error (.refused refusal), metrics) := by
  rw [perform_eq, refused]
  rfl

/-- The call sends what its exchange sends, and comes to what the exchange comes to. -/
theorem runFrom_of_toCall (becomes : wish.toCall = .ok call) (base : Url) (metrics : Metrics) (world : World)
    (arrived : Nat) :
    ∃ sent final, (exchange Http.maxRedirects (call.toRequest base)).runFrom world arrived = (sent, final) ∧
      (wish.perform base metrics).runFrom world arrived =
        (sent, outcome final, tally call.route (outcome final) metrics) := by
  rcases exchanged : (exchange Http.maxRedirects (call.toRequest base)).runFrom world arrived with ⟨sent, final⟩
  refine ⟨sent, final, rfl, ?_⟩
  rw [perform_eq, becomes]
  dsimp only
  rw [Errand.runFrom_bind, exchanged, Errand.runFrom, List.append_nil]

end Wish

/-! ## One wish after the other -/

structure Outcome where
  wish : Wish
  result : Except Failure Json

/-- How many wishes become calls of a route, which is to say that they reach sending. -/
def requests (wishes : List Wish) (route : String) : Nat :=
  wishes.countP fun wish => wish.route? = some route

def errors (outcomes : List Outcome) (route : String) : Nat :=
  outcomes.countP fun outcome => outcome.wish.route? = some route ∧ outcome.result.isOk = false

variable {wish : Wish} {call : Call} {refusal : Refusal}

theorem requests_cons (wish : Wish) (wishes : List Wish) :
    requests (wish :: wishes) = fun route => requests [wish] route + requests wishes route :=
  funext fun _ => @List.countP_append _ _ [wish] wishes

theorem errors_cons (outcome : Outcome) (outcomes : List Outcome) :
    errors (outcome :: outcomes) = fun route => errors [outcome] route + errors outcomes route :=
  funext fun _ => @List.countP_append _ _ [outcome] outcomes

theorem requests_singleton (wish : Wish) (route : String) :
    requests [wish] route = if wish.route? = some route then 1 else 0 := by
  simp only [requests, List.countP_singleton, decide_eq_true_eq]

theorem errors_singleton (wish : Wish) (result : Except Failure Json) (route : String) :
    errors [⟨wish, result⟩] route = if wish.route? = some route ∧ result.isOk = false then 1 else 0 := by
  simp only [errors, List.countP_singleton, decide_eq_true_eq]

theorem counts_of_refused (refused : wish.toCall = .error refusal) (result : Except Failure Json) :
    requests [wish] = (fun _ => 0) ∧ errors [⟨wish, result⟩] = fun _ => 0 := by
  have nowhere (route : String) : wish.route? ≠ some route := by
    rw [Wish.route?, refused]
    exact nofun
  constructor
  · funext route
    rw [requests_singleton, if_neg (nowhere route)]
  · funext route
    rw [errors_singleton, if_neg fun both => nowhere route both.1]

theorem counts_of_toCall (becomes : wish.toCall = .ok call) (result : Except Failure Json) :
    requests [wish] = once call.route true ∧ errors [⟨wish, result⟩] = once call.route !result.isOk := by
  have somewhere (route : String) : wish.route? = some route ↔ route = call.route := by
    rw [Wish.route?, becomes]
    exact Option.some_inj.trans eq_comm
  constructor
  · funext route
    simp only [requests_singleton, once, somewhere, and_true]
  · funext route
    simp only [errors_singleton, once, somewhere, Bool.not_eq_true']

theorem counted_of_toCall (becomes : wish.toCall = .ok call) (base : Url) (metrics : Metrics) (world : World)
    (arrived : Nat) :
    ∃ sent final later,
      (exchange Http.maxRedirects (call.toRequest base)).runFrom world arrived = (sent, final) ∧
        Trail world arrived Http.maxRedirects (call.toRequest base) sent final ∧
        (wish.perform base metrics).runFrom world arrived = (sent, outcome final, later) ∧
        Counted (once call.route true) (once call.route !(outcome final).isOk) metrics later := by
  obtain ⟨sent, final, exchanged, ran⟩ := Wish.runFrom_of_toCall becomes base metrics world arrived
  have trail := trail_exchange world arrived Http.maxRedirects (call.toRequest base)
  rw [exchanged] at trail
  exact ⟨sent, final, _, exchanged, trail, ran, counted_tally call.route (outcome final) metrics⟩

/-- Every wish counts for what became of it. -/
theorem counted_perform (base : Url) (wish : Wish) (metrics : Metrics) (world : World) (arrived : Nat) :
    ∃ sent result later, (wish.perform base metrics).runFrom world arrived = (sent, result, later) ∧
      Counted (requests [wish]) (errors [⟨wish, result⟩]) metrics later := by
  cases becomes : wish.toCall with
  | error refusal =>
      refine ⟨[], _, metrics, Wish.runFrom_of_refused becomes base metrics world arrived, ?_⟩
      obtain ⟨requests, errors⟩ := counts_of_refused becomes (.error (.refused refusal))
      rw [requests, errors]
      exact .refl metrics
  | ok call =>
      obtain ⟨sent, final, later, _, _, ran, counted⟩ := counted_of_toCall becomes base metrics world arrived
      obtain ⟨requests, errors⟩ := counts_of_toCall becomes (outcome final)
      refine ⟨sent, outcome final, later, ran, ?_⟩
      rw [requests, errors]
      exact counted

def performAll (base : Url) : List Wish → Metrics → Errand (List Outcome × Metrics)
  | [], metrics => .done ([], metrics)
  | wish :: wishes, metrics =>
      (wish.perform base metrics).bind fun (result, metrics) =>
        (performAll base wishes metrics).bind fun (outcomes, metrics) =>
          .done (⟨wish, result⟩ :: outcomes, metrics)

theorem counted_performAll (base : Url) (wishes : List Wish) (metrics : Metrics) (world : World) (arrived : Nat) :
    ∃ sent outcomes later, (performAll base wishes metrics).runFrom world arrived = (sent, outcomes, later) ∧
      outcomes.map Outcome.wish = wishes ∧ Counted (requests wishes) (errors outcomes) metrics later := by
  induction wishes generalizing metrics arrived with
  | nil => exact ⟨[], [], metrics, rfl, rfl, .refl metrics⟩
  | cons wish wishes ih =>
      obtain ⟨first, result, between, ran, counted⟩ := counted_perform base wish metrics world arrived
      obtain ⟨rest, outcomes, later, ranOn, whole, countedOn⟩ := ih between (arrived + first.length)
      refine ⟨first ++ rest, ⟨wish, result⟩ :: outcomes, later, ?_, ?_, ?_⟩
      · rw [performAll, Errand.runFrom_bind, ran]
        dsimp only
        rw [Errand.runFrom_bind, ranOn]
        dsimp only
        rw [Errand.runFrom, List.append_nil]
      · rw [List.map_cons, whole]
      · rw [requests_cons, errors_cons]
        exact counted.trans countedOn

/-- Every operation has a route of its own. -/
theorem Call.route_eq_iff (call other : Call) : call.route = other.route ↔ call.ctorIdx = other.ctorIdx := by
  cases call <;> cases other <;> simp [route, Call.ctorIdx]

/-- A wish with a wrong table is refused on the spot: nothing is sent and nothing counted. A call with a right table,
or without one, sends what the exchange of its request sends, and is counted once under its route, and once more if it
fails, and so is the insertion of a batch. After any wishes a route has as many more requests as there were calls of
it, and as many more errors as failed of them. -/
theorem request_counters_exact (base : Url) (world : World) :
    (∀ call other : Call, call.route = other.route ↔ call.ctorIdx = other.ctorIdx) ∧
    (∀ wish table refusal, Wish.table? wish = some table → TableName.check table = .error refusal →
      wish.toCall = .error refusal) ∧
    (∀ wish refusal, Wish.toCall wish = .error refusal → ∀ metrics arrived,
      (wish.perform base metrics).runFrom world arrived = ([], .error (.refused refusal), metrics)) ∧
    (∀ call : Call, (∀ table, call.table? = some table → ∃ name, TableName.check table = .ok name) →
      (Wish.asking call).toCall = .ok call) ∧
    (∀ table events name, TableName.check table = .ok name → events ≠ [] → events.length ≤ maxBatchSize →
      ∃ batch, Batch.make table events = .ok batch ∧ (Wish.inserting table events).toCall = .ok (.insert batch)) ∧
    (∀ wish call, Wish.toCall wish = .ok call → ∀ metrics arrived, ∃ sent final later,
      (exchange Http.maxRedirects (call.toRequest base)).runFrom world arrived = (sent, final) ∧
        Trail world arrived Http.maxRedirects (call.toRequest base) sent final ∧
        (wish.perform base metrics).runFrom world arrived = (sent, outcome final, later) ∧
        Counted (once call.route true) (once call.route !(outcome final).isOk) metrics later) ∧
    ∀ wishes metrics arrived, ∃ sent outcomes later,
      (performAll base wishes metrics).runFrom world arrived = (sent, outcomes, later) ∧
        outcomes.map Outcome.wish = wishes ∧ Counted (requests wishes) (errors outcomes) metrics later :=
  ⟨Call.route_eq_iff,
    fun _ _ _ named wrong => Wish.toCall_of_check named wrong,
    fun _ _ refused metrics arrived => Wish.runFrom_of_refused refused base metrics world arrived,
    fun _ right => Wish.toCall_asking right,
    fun _ _ _ right nonempty small =>
      ⟨_, Batch.make_of_check right nonempty small, Wish.toCall_inserting right nonempty small⟩,
    fun _ _ becomes metrics arrived => counted_of_toCall becomes base metrics world arrived,
    fun wishes metrics arrived => counted_performAll base wishes metrics world arrived⟩

/-- Wishes of which three become calls, two of them of one route. -/
def strayWishes : List Wish :=
  [.asking (.describeTable "no-table"), .asking .status, .inserting "t t" oneEvent.events, .inserting "t" [],
    .inserting "t" oneEvent.events, .asking .status]

/-- The first call is answered, and the two behind it are not. -/
theorem request_counters_exact_strayWishes :
    let world := serverWorld [⟨.ok, [], []⟩]
    TableName.check "no-table" = .error (.invalidTableName "no-table" .badCharacter) ∧
    ((Wish.asking (.describeTable "no-table")).perform Call.node Metrics.empty).runFrom world 0 =
      ([], .error (.refused (.invalidTableName "no-table" .badCharacter)), Metrics.empty) ∧
    ∃ sent outcomes later,
      (performAll Call.node strayWishes Metrics.empty).runFrom world 0 = (sent, outcomes, later) ∧
      sent.map (fun request => (request.method, request.url.target)) =
        [(.get, "/v1/status"), (.post, "/v1/insert/t"), (.get, "/v1/status")] ∧
      later.counter ⟨Series.requests, some "status"⟩ = 2 ∧
      later.counter ⟨Series.requestErrors, some "status"⟩ = 1 ∧
      later.counter ⟨Series.requests, some "insert"⟩ = 1 ∧
      later.counter ⟨Series.requestErrors, some "insert"⟩ = 1 ∧
      later.counter ⟨Series.requests, some "describe_table"⟩ = 0 := by
  intro world
  have wrong : TableName.check "no-table" = .error (.invalidTableName "no-table" .badCharacter) := by
    rw [TableName.check, dif_neg (by decide), dif_neg (by decide)]
  obtain ⟨_, named, refused, _, _, _, whole⟩ := request_counters_exact Call.node world
  obtain ⟨sent, outcomes, later, ran, _, counted⟩ := whole strayWishes Metrics.empty 0
  have stray := named (.asking (.describeTable "no-table")) "no-table" _ rfl wrong
  have arrived : sent = ((performAll Call.node strayWishes Metrics.empty).runFrom world 0).1 := by rw [ran]
  have came : outcomes = ((performAll Call.node strayWishes Metrics.empty).runFrom world 0).2.1 := by rw [ran]
  refine ⟨wrong, refused _ _ stray _ _, sent, outcomes, later, ran, ?_, ?_, ?_, ?_, ?_, ?_⟩
  · rw [arrived]
    decide +kernel
  · rw [counted.requests]
    decide +kernel
  · rw [counted.errors, came]
    decide +kernel
  · rw [counted.requests]
    decide +kernel
  · rw [counted.errors, came]
    decide +kernel
  · rw [counted.requests]
    decide +kernel

end EventFeed.Client
