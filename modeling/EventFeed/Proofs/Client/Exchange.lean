import EventFeed.Flow.Delivery
import EventFeed.Proofs.Client.Columns
import EventFeed.Proofs.Errand

/-!
# What arrives of a call

A call is meant to be one request: that of its route, and a success only if this request was accepted. A
response may send the request on, though, and then what arrives later decides, which may be a question
without a body in place of what the call carried. The trail of an exchange tells what arrives and what the
final response answers; a call that keeps to plain names is performed as meant exactly if its trail is one
request long.
-/

namespace EventFeed

namespace Client

/-! ## Trails -/

/-- How an exchange with so many hops left goes in a world: what arrives, and the final response if one
comes. -/
inductive Trail (world : World) :
    (arrived hops : Nat) → Http.Request → List Http.Request → Option Http.Response → Prop where
  | unreached {arrived hops : Nat} {request : Http.Request} (away : world.reaches request.url = false) :
      Trail world arrived hops request [] none
  | lost {arrived hops : Nat} {request : Http.Request} (reached : world.reaches request.url = true)
      (came : world.reply arrived = .lost) : Trail world arrived hops request [request] none
  | settled {arrived hops : Nat} {request : Http.Request} {response : Http.Response}
      (reached : world.reaches request.url = true) (came : world.reply arrived = .response response)
      (stays : request.onward response = .stays) : Trail world arrived hops request [request] (some response)
  | broken {arrived hops : Nat} {request : Http.Request} {response : Http.Response}
      (reached : world.reaches request.url = true) (came : world.reply arrived = .response response)
      (fails : request.onward response = .fails) : Trail world arrived hops request [request] none
  | spent {arrived : Nat} {request next : Http.Request} {response : Http.Response}
      (reached : world.reaches request.url = true) (came : world.reply arrived = .response response)
      (follows : request.onward response = .follows next) : Trail world arrived 0 request [request] none
  | sentOn {arrived hops : Nat} {request next : Http.Request} {response : Http.Response}
      {later : List Http.Request} {final : Option Http.Response}
      (reached : world.reaches request.url = true) (came : world.reply arrived = .response response)
      (follows : request.onward response = .follows next)
      (rest : Trail world (arrived + 1) hops next later final) :
      Trail world arrived (hops + 1) request (request :: later) final

variable {world : World} {arrived hops : Nat} {request : Http.Request} {sent : List Http.Request}
  {final : Option Http.Response}

/-- An exchange goes on as the reply to its request says. -/
theorem Trail.of_send {follow : Http.Request → Errand (Option Http.Response)}
    (goesOn : ∀ response next, world.reaches request.url = true →
      world.reply arrived = .response response → request.onward response = .follows next →
        Trail world arrived hops request (request :: ((follow next).runFrom world (arrived + 1)).1)
          ((follow next).runFrom world (arrived + 1)).2) :
    Trail world arrived hops request
      ((Errand.send request (afterReply request follow)).runFrom world arrived).1
      ((Errand.send request (afterReply request follow)).runFrom world arrived).2 := by
  rw [Errand.runFrom]
  split
  · rename_i reached
    cases came : world.reply arrived with
    | lost => exact .lost reached came
    | response response =>
        rw [afterReply]
        cases leads : request.onward response with
        | stays => exact .settled reached came leads
        | fails => exact .broken reached came leads
        | follows next => exact goesOn response next reached came leads
  · rename_i away
    exact .unreached (Bool.eq_false_iff.2 away)

theorem trail_exchange (world : World) (arrived hops : Nat) (request : Http.Request) :
    Trail world arrived hops request ((exchange hops request).runFrom world arrived).1
      ((exchange hops request).runFrom world arrived).2 := by
  induction hops generalizing arrived request with
  | zero => exact .of_send fun response next reached came follows => .spent reached came follows
  | succ hops ih =>
      exact .of_send fun response next reached came follows =>
        .sentOn reached came follows (ih (arrived + 1) next)

/-- No more arrives than one request and one for each hop. -/
theorem Trail.length_le (trail : Trail world arrived hops request sent final) : sent.length ≤ hops + 1 := by
  induction trail with
  | unreached _ => exact Nat.zero_le _
  | lost _ _ => exact Nat.le_add_left 1 _
  | settled _ _ _ => exact Nat.le_add_left 1 _
  | broken _ _ _ => exact Nat.le_add_left 1 _
  | spent _ _ _ => exact Nat.le_refl 1
  | sentOn _ _ _ _ ih => exact Nat.succ_le_succ ih

/-- The final response answers the last request that arrived. -/
theorem Trail.answered {response : Http.Response}
    (trail : Trail world arrived hops request sent (some response)) :
    ∃ earlier last, sent = earlier ++ [last] ∧
      world.reply (arrived + earlier.length) = .response response ∧ last.onward response = .stays := by
  generalize whole : some response = final at trail
  induction trail with
  | unreached _ => cases whole
  | lost _ _ => cases whole
  | settled _ came stays =>
      cases whole
      exact ⟨[], _, rfl, came, stays⟩
  | broken _ _ _ => cases whole
  | spent _ _ _ => cases whole
  | @sentOn arrived _ request _ _ _ _ _ _ _ _ ih =>
      obtain ⟨earlier, last, rfl, came, stays⟩ := ih whole
      refine ⟨request :: earlier, last, rfl, ?_, stays⟩
      rw [List.length_cons, Nat.add_comm earlier.length, ← Nat.add_assoc]
      exact came

theorem Trail.answered_alone {response : Http.Response}
    (trail : Trail world arrived hops request [request] (some response)) :
    world.reply arrived = .response response := by
  obtain ⟨earlier, last, whole, came, _⟩ := trail.answered
  have first : [] ++ [request] = earlier ++ [last] := whole
  obtain ⟨rfl, _⟩ := List.append_inj' first rfl
  exact came

/-- The reply to a request sends it on, and the next one arrives. -/
def SendsOn (world : World) (arrived : Nat) (request : Http.Request) : Prop :=
  ∃ response next, world.reply arrived = .response response ∧ request.onward response = .follows next ∧
    world.reaches next.url = true

/-- What arrives begins with the request, unless that does not arrive. -/
theorem Trail.begins (trail : Trail world arrived hops request sent final) :
    (world.reaches request.url = false ∧ sent = []) ∨
      (world.reaches request.url = true ∧ ∃ later, sent = request :: later) := by
  cases trail with
  | unreached away => exact .inl ⟨away, rfl⟩
  | lost reached _ => exact .inr ⟨reached, [], rfl⟩
  | settled reached _ _ => exact .inr ⟨reached, [], rfl⟩
  | broken reached _ _ => exact .inr ⟨reached, [], rfl⟩
  | spent reached _ _ => exact .inr ⟨reached, [], rfl⟩
  | sentOn reached _ _ _ => exact .inr ⟨reached, _, rfl⟩

theorem Trail.empty_iff (trail : Trail world arrived hops request sent final) :
    sent = [] ↔ world.reaches request.url = false := by
  rcases trail.begins with ⟨away, none⟩ | ⟨reached, later, some⟩
  · exact iff_of_true none away
  · simp [reached, some]

/-- Where a request may be sent on at all, it arrives alone exactly if it is not. -/
theorem Trail.alone_iff (trail : Trail world arrived hops request sent final) (some : 0 < hops)
    (reached : world.reaches request.url = true) : sent = [request] ↔ ¬SendsOn world arrived request := by
  cases trail with
  | unreached away =>
      rw [reached] at away
      cases away
  | lost _ came => simp [SendsOn, came]
  | settled _ came stays => simp [SendsOn, came, stays]
  | broken _ came fails => simp [SendsOn, came, fails]
  | spent => cases some
  | sentOn _ came follows rest => simp [SendsOn, came, follows, rest.empty_iff]

/-! ## Calls as they are meant -/

namespace Call

def method : Call → Http.Method
  | .initCluster _ => .put
  | .inviteNode .. => .put
  | .status => .get
  | .createTable .. => .post
  | .describeTable _ => .get
  | .addColumn .. => .put
  | .dropColumn .. => .delete
  | .insert _ => .post
  | .query .. => .post

def body? : Call → Option Http.Body
  | .createTable _ definition => some ⟨"application/json", Document.encode definition⟩
  | .insert batch => some ⟨"application/json", batch.compact⟩
  | .query _ code _ => some ⟨"text/plain", code⟩
  | _ => none

/-- A request is that of a call's route: it does to what the call names what the call is for, and carries
what the call carries. -/
structure Asks (call : Call) (base : Url) (request : Http.Request) : Prop where
  method : request.method = call.method
  place : request.url.LiesBelow base call.way
  body : request.body = call.body?

/-- After some requests have arrived, a call is performed as it is meant: one more arrives, that of the call's
route, and the call succeeds only if this request was accepted. -/
structure PerformedAsMeant (call : Call) (base : Url) (metrics : Metrics) (world : World)
    (arrived : Nat) : Prop where
  once : ∃ request, ((perform base call metrics).runFrom world arrived).1 = [request] ∧
    call.Asks base request
  accepted : ∀ value, ((perform base call metrics).runFrom world arrived).2.1 = .ok value →
    ∃ response, world.reply arrived = .response response ∧ response.status.isSuccess = true

variable {base : Url} {call : Call} {metrics : Metrics}

theorem asks_iff (formed : call.request base = .ok request) :
    call.Asks base request ↔ call.PlainColumn := by
  constructor
  · intro asks
    exact (liesBelow_iff formed).1 asks.place
  · intro column
    have place := (liesBelow_iff formed).2 column
    have whole := (of_request formed).1
    constructor
    · rw [whole]
      cases call <;> rfl
    · exact place
    · rw [whole]
      cases call <;> rfl

end Call

/-- A call that is formed sends what its exchange sends, and comes to what the exchange comes to. -/
theorem runFrom_perform {base : Url} {call : Call} (formed : call.request base = .ok request)
    (metrics : Metrics) (world : World) (arrived : Nat) :
    ∃ sent final, Trail world arrived Http.maxRedirects request sent final ∧
      (perform base call metrics).runFrom world arrived =
        (sent, outcome final, tally call.route (outcome final) metrics) := by
  refine ⟨_, _, trail_exchange world arrived Http.maxRedirects request, ?_⟩
  unfold perform
  rw [formed]
  dsimp only
  rw [Errand.runFrom_bind, Errand.runFrom, List.append_nil]

/-- Only an accepted response makes a success. -/
theorem accepted_of_outcome {value : Json} (succeeded : outcome final = .ok value) :
    ∃ response, final = some response ∧ response.status.isSuccess = true := by
  cases final with
  | none => cases succeeded
  | some response =>
      refine ⟨response, rfl, ?_⟩
      rw [outcome, readResponse] at succeeded
      split at succeeded
      · rename_i accepted
        exact accepted
      · cases succeeded

/-! ## Batches that are delivered -/

theorem delivering_eq (base : Url) (batch : Batch) (shared : Flow.Shared) (metrics : Metrics) :
    (Flow.delivering base batch shared).run metrics =
      (perform base (.insert batch) metrics).bind fun performed =>
        .publish (shared.metrics.merge performed.2)
          (.done ((performed.1.mapError .client, shared), performed.2)) := by
  change ((perform base (.insert batch) metrics).bind fun performed => .done (performed, metrics)).bind _ = _
  -- What is lifted into the sink's monad carries its metrics along in a step of its own.
  rw [Errand.bind_assoc]
  rfl

/-- What the sink makes of a batch in a world in which some requests have arrived. -/
def sinkOutcome (base : Url) (batch : Batch) (shared : Flow.Shared) (metrics : Metrics) (world : World)
    (arrived : Nat) : Flow.Outcome :=
  (((Flow.delivering base batch shared).run metrics).runFrom world arrived).2.1.1

theorem sinkOutcome_eq (base : Url) (batch : Batch) (shared : Flow.Shared) (metrics : Metrics)
    (world : World) (arrived : Nat) :
    sinkOutcome base batch shared metrics world arrived =
      ((perform base (.insert batch) metrics).runFrom world arrived).2.1.mapError .client := by
  unfold sinkOutcome
  rw [delivering_eq, Errand.runFrom_bind, Errand.runFrom, Errand.runFrom]

/-- A batch counts as sent exactly if it was accepted. -/
theorem batchesSent_record_iff (shared : Flow.Shared) (count : Nat) (outcome : Flow.Outcome) :
    (Flow.Sender.record shared count outcome).progress.batchesSent = shared.progress.batchesSent + 1 ↔
      ∃ value, outcome = .ok value := by
  cases outcome with
  | ok value => exact iff_of_true rfl ⟨value, rfl⟩
  | error fault =>
      refine iff_of_false ?_ ?_
      · intro grown
        have same : shared.progress.batchesSent = shared.progress.batchesSent + 1 := grown
        exact absurd (UInt64.add_eq_left.1 same.symm) (by decide)
      · rintro ⟨value, accepted⟩
        cases accepted

/-- A run counts a batch as sent exactly if the batch's call succeeds. -/
theorem batchesSent_iff (base : Url) (batch : Batch) (shared : Flow.Shared) (metrics : Metrics)
    (world : World) (arrived : Nat) :
    (Flow.Sender.record shared batch.size
          (sinkOutcome base batch shared metrics world arrived)).progress.batchesSent =
        shared.progress.batchesSent + 1 ↔
      ∃ value, ((perform base (.insert batch) metrics).runFrom world arrived).2.1 = .ok value := by
  rw [batchesSent_record_iff, sinkOutcome_eq]
  cases ((perform base (.insert batch) metrics).runFrom world arrived).2.1 with
  | ok value => exact iff_of_true ⟨value, rfl⟩ ⟨value, rfl⟩
  | error failure =>
      constructor
      · rintro ⟨value, accepted⟩
        cases accepted
      · rintro ⟨value, succeeded⟩
        cases succeeded

/-! ## The meaning of a success -/

/-- Where requests reach the server, a call is performed as it is meant exactly if it keeps to plain names and
its request is not sent on to a place that is reached as well. A run counts a batch as sent exactly if the
batch's call succeeds. -/
theorem performedAsMeant_iff {base : Url} {call : Call} (formed : call.request base = .ok request)
    (reached : world.reaches request.url = true) (metrics : Metrics) (arrived : Nat) :
    (call.PerformedAsMeant base metrics world arrived ↔
      call.PlainColumn ∧ ¬SendsOn world arrived request) ∧
      ∀ (batch : Batch) (shared : Flow.Shared), call = .insert batch →
        ((Flow.Sender.record shared batch.size
              (sinkOutcome base batch shared metrics world arrived)).progress.batchesSent =
            shared.progress.batchesSent + 1 ↔
          ∃ value, ((perform base call metrics).runFrom world arrived).2.1 = .ok value) := by
  obtain ⟨sent, final, trail, ran⟩ := runFrom_perform formed metrics world arrived
  have alone := trail.alone_iff (by decide) reached
  constructor
  · constructor
    · rintro ⟨⟨asked, once, asks⟩, _⟩
      rw [ran] at once
      have single : sent = [asked] := once
      rcases trail.begins with ⟨away, _⟩ | ⟨_, later, first⟩
      · rw [reached] at away
        cases away
      · rw [first] at single
        obtain ⟨rfl, rfl⟩ := List.cons.inj single
        exact ⟨(Call.asks_iff formed).1 asks, alone.1 first⟩
    · rintro ⟨column, stays⟩
      have single := alone.2 stays
      rw [single] at trail
      constructor
      · refine ⟨request, ?_, (Call.asks_iff formed).2 column⟩
        rw [ran]
        exact single
      · intro value succeeded
        rw [ran] at succeeded
        obtain ⟨response, rfl, accepted⟩ := accepted_of_outcome succeeded
        exact ⟨response, trail.answered_alone, accepted⟩
  · rintro batch shared rfl
    exact batchesSent_iff base batch shared metrics world arrived

def serverWorld (answers : List Http.Response) : World where
  reaches _ := true
  reply number :=
    match answers[number]? with
    | some response => .response response
    | none => .lost
  directory := .ok []
  files _ := .error .permissionDenied
  portFault _ := none
  elapsed := Duration.zero

def oneEvent : Batch where
  table := ⟨"t", by decide, List.all_eq_true.1 (by decide)⟩
  events := [⟨[("n", .bool true)], by simp [Json.OrderedMembers, Json.Ordered]⟩]
  nonempty := List.cons_ne_nil _ _
  small := by decide

/-- A batch that is accepted at once is inserted as it is meant. -/
theorem performedAsMeant_iff_oneEvent :
    (Call.insert oneEvent).request Call.node = .ok ((Call.insert oneEvent).toRequest Call.node) ∧
      (serverWorld [⟨.ok, [], []⟩]).reaches ((Call.insert oneEvent).toRequest Call.node).url = true ∧
      (Call.insert oneEvent).PerformedAsMeant Call.node Metrics.empty (serverWorld [⟨.ok, [], []⟩]) 0 := by
  have formed : (Call.insert oneEvent).request Call.node =
      .ok ((Call.insert oneEvent).toRequest Call.node) := rfl
  have reached : (serverWorld [⟨.ok, [], []⟩]).reaches
      ((Call.insert oneEvent).toRequest Call.node).url = true := rfl
  have stays : ((Call.insert oneEvent).toRequest Call.node).onward ⟨.ok, [], []⟩ = .stays := rfl
  have meant := (performedAsMeant_iff formed reached Metrics.empty 0).1
  refine ⟨formed, reached, meant.2 ⟨?_, ?_⟩⟩
  · intro table name about
    cases about
  · rintro ⟨response, next, came, follows, _⟩
    cases came
    rw [stays] at follows
    cases follows

/-- The answer that sends a request elsewhere. -/
def found (place : String) : Http.Response :=
  ⟨⟨302, by decide⟩, [("location", place)], []⟩

def elsewhere : World :=
  serverWorld [found "/elsewhere", ⟨.ok, [], []⟩]

/-- An insert that is sent elsewhere goes there as a question without its batch, and when that is answered the
insert counts as a success. -/
theorem insert_sentOn :
    ((perform Call.node (.insert oneEvent) Metrics.empty).runFrom elsewhere 0).1.map
        (fun request => (request.method, request.url.target, request.body.isSome)) =
        [(.post, "/v1/insert/t", true), (.get, "/elsewhere", false)] ∧
      ((perform Call.node (.insert oneEvent) Metrics.empty).runFrom elsewhere 0).2.1.isOk = true ∧
      ¬(Call.insert oneEvent).PerformedAsMeant Call.node Metrics.empty elsewhere 0 := by
  have succeeded :
      ((perform Call.node (.insert oneEvent) Metrics.empty).runFrom elsewhere 0).2.1.isOk = true := by
    decide +kernel
  refine ⟨by decide +kernel, succeeded, ?_⟩
  rintro ⟨_, accepted⟩
  generalize ((perform Call.node (.insert oneEvent) Metrics.empty).runFrom elsewhere 0).2.1 =
    result at succeeded accepted
  cases result with
  | error _ => cases succeeded
  | ok value =>
      obtain ⟨response, came, success⟩ := accepted value rfl
      cases came
      exact absurd success (by decide)

end Client

end EventFeed
