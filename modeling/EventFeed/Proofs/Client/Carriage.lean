import EventFeed.Proofs.Client.Exchange
import EventFeed.Proofs.EventText
import EventFeed.Proofs.Json.Apart

/-!
# What an insert carries

An insert names its table on its path and carries the table and the events in its body, which spells them two
levels deep. The body is read as what the batch holds exactly if no object in an event begins with the
embedding key. Whether it is read or not, it tells the batch: two batches never make one request.
-/

namespace EventFeed

open EventFeed.Client

variable {batch : Batch} {table : String} {events : List Event}

/-! ## The document of a batch -/

theorem Event.toJson_injective : Function.Injective Event.toJson := by
  rintro ⟨members, _⟩ ⟨members', _⟩ same
  cases same
  rfl

theorem Event.orderedItems_map (events : List Event) : Json.OrderedItems (events.map Event.toJson) := by
  induction events with
  | nil => trivial
  | cons event events ih => exact ⟨event.ordered, ih⟩

namespace Batch

/-- What a reader of the body finds: the same members, in key order. -/
def received (table : String) (events : List Event) : Json :=
  .object [("events", .array (events.map Event.toJson)), ("table", .string table)]

theorem sorted_toJson (batch : Batch) : batch.toJson.sorted = received batch.table.text batch.events := by
  have items := Json.sortedItems_of_ordered _ (Event.orderedItems_map batch.events)
  have list : (Json.array (batch.events.map Event.toJson)).sorted = .array (batch.events.map Event.toJson) := by
    rw [Json.sorted, items]
  have members : batch.toJson.sorted = .object (Json.insertMember "table" (.string batch.table.text)
      [("events", (Json.array (batch.events.map Event.toJson)).sorted)]) := rfl
  have behind : ¬ "table" < "events" := by decide
  have other : ¬ "table" = "events" := by decide
  rw [members, list, Json.insertMember, if_neg behind, if_neg other]
  rfl

/-- What holds of all that a batch adds around its events holds throughout its document if it does throughout
the events. -/
theorem throughout_toJson {holds : Json → Prop} (outside : holds batch.toJson)
    (name : holds (.string batch.table.text)) (list : holds (.array (batch.events.map Event.toJson))) :
    batch.toJson.Throughout holds ↔ ∀ event ∈ batch.events, event.toJson.Throughout holds := by
  have named : (Json.string batch.table.text).Throughout holds := Json.throughout_leaf rfl name
  rw [toJson] at outside ⊢
  rw [Json.throughout_object]
  simp only [List.forall_mem_cons, Json.throughout_array, List.forall_mem_map, outside, named, list, true_and]
  exact ⟨fun all => all.1, fun all => ⟨all, List.forall_mem_nil _⟩⟩

theorem whole_toJson : batch.toJson.Whole ↔ ∀ event ∈ batch.events, event.toJson.Whole :=
  throughout_toJson trivial trivial trivial

theorem accompanied_toJson : batch.toJson.Accompanied ↔ ∀ event ∈ batch.events, event.toJson.Accompanied :=
  throughout_toJson trivial trivial trivial

/-- The document of a batch has two levels above its events. -/
theorem fits_toJson {depth : Nat} :
    Json.Fits (depth + 2) batch.toJson ↔ ∀ event ∈ batch.events, Json.Fits depth event.toJson := by
  have table : Json.Fits (depth + 1) (.string batch.table.text) :=
    ⟨Nat.zero_le _, Json.throughout_leaf rfl trivial⟩
  have first : Json.UnembeddedHere batch.toJson := by
    show "table" ≠ Json.embeddedKey
    decide
  rw [toJson] at first ⊢
  rw [Json.fits_object_succ]
  simp only [List.forall_mem_cons, Json.fits_array_succ, List.forall_mem_map, first, table, true_and]
  exact ⟨fun all => all.1, fun all => ⟨all, List.forall_mem_nil _⟩⟩

theorem toJson_injective : Function.Injective toJson := by
  rintro ⟨⟨table, _, _⟩, events, _, _⟩ ⟨⟨table', _, _⟩, events', _, _⟩ same
  rw [toJson, toJson] at same
  injection same with members
  injection members with name others
  injection others with list none
  obtain rfl : table = table' := Json.string.inj (Prod.mk.inj name).2
  obtain rfl : events = events' :=
    List.map_injective_iff.2 Event.toJson_injective (Json.array.inj (Prod.mk.inj list).2)
  rfl

/-- The text of a batch with whole numbers is read as what the batch holds exactly if the events may be read
back two levels further down. -/
theorem parseText_compact_iff (whole : ∀ event ∈ batch.events, event.toJson.Whole) :
    Json.parseText batch.compact = .ok (received batch.table.text batch.events) ↔
      ∀ event ∈ batch.events, Json.Fits 125 event.toJson := by
  by_cases accompanied : batch.toJson.Accompanied
  · rcases Json.parseText_sorted (whole_toJson.2 whole) accompanied with
      ⟨fits, parsed⟩ | ⟨fails, error, refused⟩
    · rw [sorted_toJson] at parsed
      exact iff_of_true parsed (fits_toJson.1 fits)
    · refine iff_of_false ?_ fun fits => fails (fits_toJson.2 fits)
      rw [compact, refused]
      exact nofun
  -- What is read always has accompanied keys only, and so have events that may be read back.
  · refine iff_of_false ?_ ?_
    · intro parsed
      have inside := (Json.throughout_object.1 (Json.accompanied_of_parse parsed)).2 _ List.mem_cons_self
      apply accompanied
      apply accompanied_toJson.2
      exact List.forall_mem_map.1 (Json.throughout_array.1 inside).2
    · intro fits
      apply accompanied
      apply accompanied_toJson.2
      intro event present
      have sorted := Json.accompanied_sorted event.toJson (fits event present).2
      rw [Json.sorted_of_ordered event.toJson event.ordered] at sorted
      exact sorted

/-- Batches with whole numbers and one text are one batch. -/
theorem eq_of_compact_eq {other : Batch} (whole : ∀ event ∈ batch.events, event.toJson.Whole)
    (otherWhole : ∀ event ∈ other.events, event.toJson.Whole) (same : batch.compact = other.compact) :
    batch = other :=
  toJson_injective (Json.eq_of_compact_eq (whole_toJson.2 whole) (whole_toJson.2 otherWhole) same)

end Batch

/-! ## The request of an insert -/

namespace Client

open Url (segmentOf)

/-- From the root, an insert goes to its table, whose name stands on the path as it is. -/
theorem url_insert {base : Url} (root : base.path = [""]) (batch : Batch) :
    ((Call.insert batch).toRequest base).url =
      { base with path := ["v1", "insert", batch.table.text] } := by
  have formed : (Call.insert batch).request base = .ok ((Call.insert batch).toRequest base) := rfl
  have noColumn : (Call.insert batch).PlainColumn := by
    intro table name about
    cases about
  have leads := Call.path_of_request formed noColumn
  have fixed : segmentOf "v1" = "v1" ∧ segmentOf "insert" = "insert" := by decide
  rw [Call.stem_of_root root] at leads
  simp only [Call.way, List.map_cons, List.map_nil, fixed, Url.segmentOf_table, List.nil_append] at leads
  rw [← leads]
  rfl

/-- From the root, an insert posts to its table a text that is read as what the batch holds exactly if no
object in an event begins with the embedding key, and no other batch makes the same request. -/
theorem insert_carries_iff {base : Url} (made : Batch.make table events = .ok batch)
    (shallow : ∀ event ∈ events, event.toJson.nesting ≤ 125) (whole : ∀ event ∈ events, event.toJson.Whole)
    (root : base.path = [""]) :
    ∃ request body, (Call.insert batch).request base = .ok request ∧
      (∀ metrics world arrived, world.reaches request.url = true →
        ((perform base (.insert batch) metrics).runFrom world arrived).1.head? = some request) ∧
      request = ⟨.post, { base with path := ["v1", "insert", table] }, some ⟨"application/json", body⟩⟩ ∧
      request.url.pathText = "/v1/insert/" ++ table ∧
      (Json.parseText body =
          .ok (.object [("events", .array (events.map Event.toJson)), ("table", .string table)]) ↔
        ∀ event ∈ events, event.toJson.Unembedded) ∧
      ∀ table' events' batch', Batch.make table' events' = .ok batch' →
        (∀ event ∈ events', event.toJson.Whole) → (Call.insert batch').request base = .ok request →
          table' = table ∧ events' = events := by
  obtain rfl := Batch.table_of_make made
  obtain rfl := Batch.events_of_make made
  have url := url_insert root batch
  refine ⟨(Call.insert batch).toRequest base, batch.compact, rfl, ?_, ?_, ?_, ?_, ?_⟩
  · intro metrics world arrived reached
    obtain ⟨sent, final, trail, ran⟩ :=
      runFrom_perform (show (Call.insert batch).request base = .ok _ from rfl) metrics world arrived
    rw [ran]
    rcases trail.begins with ⟨away, _⟩ | ⟨_, later, first⟩
    · rw [reached] at away
      cases away
    · rw [first]
      rfl
  · rw [← url]
    rfl
  · rw [url, Url.pathText]
    apply String.toList_inj.1
    simp
  · have read := Batch.parseText_compact_iff whole
    rw [Batch.received] at read
    rw [read]
    constructor
    · intro fits event present
      exact (fits event present).2
    · intro unembedded event present
      exact ⟨shallow event present, unembedded event present⟩
  · intro table' events' batch' made' whole' formed
    obtain rfl := Batch.table_of_make made'
    obtain rfl := Batch.events_of_make made'
    have body := congrArg Http.Request.body (Except.ok.inj formed)
    have text : batch'.compact = batch.compact := congrArg Http.Body.text (Option.some.inj body)
    rw [Batch.eq_of_compact_eq whole' whole text]
    exact ⟨rfl, rfl⟩

/-- A batch of two events, one of them with nothing in it. -/
def twoEvents : Batch where
  table := ⟨"t_1", by decide, List.all_eq_true.1 (by decide)⟩
  events :=
    [⟨[("a", .array [.number (.integer 18446744073709551615 (by decide)), .null]), ("b", .string "é\n")],
        ⟨⟨trivial, trivial, trivial⟩, List.forall_mem_singleton.2 (by decide), trivial, List.forall_mem_nil _,
          trivial⟩⟩,
      ⟨[], trivial⟩]
  nonempty := List.cons_ne_nil _ _
  small := by decide

/-- The two events arrive as they are, behind the name of their table. -/
theorem insert_carries_iff_twoEvents :
    Batch.make "t_1" twoEvents.events = .ok twoEvents ∧
      ∃ request body, (Call.insert twoEvents).request Call.node = .ok request ∧
        request.url.pathText = "/v1/insert/t_1" ∧ request.body = some ⟨"application/json", body⟩ ∧
        Json.parseText body =
          .ok (.object [("events", .array (twoEvents.events.map Event.toJson)), ("table", .string "t_1")]) := by
  have made : Batch.make "t_1" twoEvents.events = .ok twoEvents := rfl
  have shallow : ∀ event ∈ twoEvents.events, event.toJson.nesting ≤ 125 := by decide
  have whole : ∀ event ∈ twoEvents.events, event.toJson.Whole := by decide
  have unembedded : ∀ event ∈ twoEvents.events, event.toJson.Unembedded := by decide
  have root : Call.node.path = [""] := rfl
  obtain ⟨request, body, formed, _, parts, path, read, _⟩ := insert_carries_iff made shallow whole root
  refine ⟨made, request, body, formed, path, ?_, read.2 unembedded⟩
  rw [parts]

/-- An event can be inserted whose request no reader takes apart. -/
theorem insert_unreadable :
    ∃ event batch request body, Event.parse coveredLine = .ok event ∧ event.toJson.Whole ∧
      event.toJson.nesting ≤ 125 ∧ Batch.make "t" [event] = .ok batch ∧
      (Call.insert batch).request Call.node = .ok request ∧
      request.body = some ⟨"application/json", body⟩ ∧ ∃ error, Json.parseText body = .error error := by
  obtain ⟨event, parsed, holds⟩ := Event.exists_of_any (fun event => decide (event.toJson.Whole ∧
    event.toJson.nesting ≤ 125 ∧ ¬ event.toJson.Unembedded))
    (show (Event.parse coveredLine).toOption.any _ = true by decide +kernel)
  obtain ⟨whole, shallow, embedded⟩ := of_decide_eq_true holds
  obtain ⟨name, checked⟩ : ∃ name, TableName.check "t" = .ok name := ⟨_, rfl⟩
  obtain ⟨batch, made⟩ : ∃ batch, Batch.make "t" [event] = .ok batch :=
    ⟨_, Batch.make_of_check checked (List.cons_ne_nil event []) (by decide : 1 ≤ maxBatchSize)⟩
  have held : batch.events = [event] := Batch.events_of_make made
  have wholeAll : ∀ event ∈ batch.events, event.toJson.Whole := by
    rw [held]
    exact List.forall_mem_singleton.2 whole
  have accompanied : ∀ event ∈ batch.events, event.toJson.Accompanied := by
    rw [held]
    exact List.forall_mem_singleton.2 (Json.accompanied_of_parse (Event.parse_eq_ok_iff.1 parsed))
  refine ⟨event, batch, _, _, parsed, whole, shallow, made, rfl, rfl, ?_⟩
  rcases Json.parseText_sorted (Batch.whole_toJson.2 wholeAll) (Batch.accompanied_toJson.2 accompanied) with
    ⟨fits, _⟩ | ⟨_, refused⟩
  · have all := Batch.fits_toJson.1 fits
    rw [held] at all
    exact absurd (all event List.mem_cons_self).2 embedded
  · exact refused

end Client

end EventFeed
