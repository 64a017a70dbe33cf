import EventFeed.Proofs.Client.Columns
import EventFeed.Proofs.Url.Forms

/-!
# Parameters of calls

Some calls take parameters, which travel in the query of the URL. What a server finds there are the
parameters that are set, each under its own name and with the value it was given; when none is set there is
no query.
-/

namespace EventFeed

/-! ## Queries of URLs -/

namespace Url

def parameters (url : Url) : List (String × String) :=
  match url.query with
  | some query => Form.decode query
  | none => []

theorem query_withPairs {url : Url} (plain : url.query = none) (pairs : List (String × String)) :
    (url.withPairs pairs).query = if pairs = [] then none else some (Form.encode pairs) := by
  have empty : String.ofList (Form.append [] pairs) = "" ↔ pairs = [] := by
    rw [← Form.append_nil_eq_nil_iff, ← String.toList_inj, String.toList_ofList]
    rfl
  rw [withPairs, plain]
  change (if String.ofList (Form.append [] pairs) = "" then none else some _) = _
  simp only [empty]
  rfl

theorem parameters_withPairs {url : Url} (plain : url.query = none) (pairs : List (String × String)) :
    (url.withPairs pairs).parameters = pairs := by
  rw [parameters, query_withPairs plain]
  split
  · rename_i query some
    split at some
    · cases some
    · cases some
      exact Form.decode_encode pairs
  · rename_i none
    split at none
    · rename_i empty
      exact empty.symm
    · cases none

theorem marked_injective (mark : String) (visible : mark ≠ "") : Function.Injective (marked mark) := by
  intro part other same
  have nonempty (part : String) : marked mark (some part) ≠ "" := by
    intro empty
    exact visible (String.append_eq_empty_iff.1 empty).1
  cases part with
  | none =>
      cases other with
      | none => rfl
      | some other => exact absurd same.symm (nonempty other)
  | some part =>
      cases other with
      | none => exact absurd same (nonempty part)
      | some other => exact congrArg some ((String.append_right_inj mark).1 same)

/-- URLs that differ in nothing but their queries differ as texts. -/
theorem query_eq_of_text_eq {url : Url} {query other : Option String}
    (same : { url with query := query }.text = { url with query := other }.text) : query = other := by
  have targets : url.pathText ++ marked "?" query = url.pathText ++ marked "?" other :=
    (String.append_right_inj _).1 ((String.append_left_inj _).1 same)
  exact marked_injective "?" (by decide) ((String.append_right_inj _).1 targets)

end Url

namespace Client

/-! ## What is declared -/

/-- The parameters that are set, out of declared ones. -/
def given (declared : List (String × Option String)) : List (String × String) :=
  declared.filterMap fun (name, value) => value.map (name, ·)

/-- The parameters of a query in their order, each with its text if it is set. -/
def QueryOptions.declared (options : QueryOptions) : List (String × Option String) :=
  [("debug", if options.debug then some "true" else .none),
    ("trim", options.trim.map fun rows => toString rows.toInt),
    ("sort", options.sort),
    ("order", options.order.map SortOrder.name),
    ("session_time", options.sessionTime.map fun milliseconds => toString milliseconds.toInt),
    ("segments", options.segments)]

/-- The parameters of a call in their order, each with its text if it is set. -/
def Call.declared : Call → List (String × Option String)
  | .initCluster partitions => [("partitions", some (toString partitions))]
  | .inviteNode host port => [("host", some host), ("port", some (toString port))]
  | .addColumn _ _ type isSet => [("type", some type.name), ("is_set", some (toString isSet))]
  | .query _ _ options => options.declared
  | .status => []
  | .createTable .. => []
  | .describeTable _ => []
  | .dropColumn .. => []
  | .insert _ => []

theorem given_cons (name : String) (value : Option String) (rest : List (String × Option String)) :
    given ((name, value) :: rest) = (value.map (name, ·)).toList ++ given rest := by
  cases value <;> rfl

theorem given_eq_nil_iff (declared : List (String × Option String)) :
    given declared = [] ↔ ∀ parameter ∈ declared, parameter.2 = none := by
  simp [given, List.filterMap_eq_nil_iff]

theorem name_of_mem_given {declared : List (String × Option String)} {pair : String × String}
    (present : pair ∈ given declared) : pair.1 ∈ declared.map Prod.fst := by
  obtain ⟨⟨name, value⟩, within, found⟩ := List.mem_filterMap.1 present
  obtain ⟨text, _, rfl⟩ := Option.map_eq_some_iff.1 found
  exact List.mem_map.2 ⟨_, within, rfl⟩

/-- Where no two parameters share a name, what is set under a name is what was declared under it. -/
theorem filter_given {declared : List (String × Option String)} (distinct : (declared.map Prod.fst).Nodup)
    {name : String} {value : Option String} (present : (name, value) ∈ declared) :
    (given declared).filter (·.1 = name) = (value.map (name, ·)).toList := by
  induction declared with
  | nil => cases present
  | cons first rest ih =>
      obtain ⟨other, held⟩ := first
      rw [List.map_cons, List.nodup_cons] at distinct
      rw [given_cons, List.filter_append]
      rcases List.mem_cons.1 present with same | later
      · cases same
        have absent : (given rest).filter (·.1 = name) = [] := by
          refine List.filter_eq_nil_iff.2 fun pair inside => ?_
          rw [decide_eq_true_eq]
          rintro rfl
          exact distinct.1 (name_of_mem_given inside)
        rw [absent, List.append_nil]
        cases value with
        | none => rfl
        | some text => simp
      · have different : other ≠ name := by
          rintro rfl
          exact distinct.1 (List.mem_map.2 ⟨_, later, rfl⟩)
        rw [ih distinct.2 later]
        cases held with
        | none => rfl
        | some text => simp [different]

/-- What is set tells what was declared under the same names. -/
theorem eq_of_given_eq {declared others : List (String × Option String)}
    (distinct : (declared.map Prod.fst).Nodup) (names : others.map Prod.fst = declared.map Prod.fst)
    (same : given others = given declared) : others = declared := by
  induction declared generalizing others with
  | nil => exact List.map_eq_nil_iff.1 names
  | cons first rest ih =>
      cases others with
      | nil => cases names
      | cons other later =>
          obtain ⟨name, value⟩ := first
          obtain ⟨name', value'⟩ := other
          obtain ⟨rfl, restNames⟩ := List.cons.inj names
          have here := filter_given distinct List.mem_cons_self
          have there := filter_given (names ▸ distinct) List.mem_cons_self
          rw [same, here] at there
          have values : value' = value := by
            cases value <;> cases value' <;> simp at there ⊢
            exact there.symm
          subst values
          rw [given_cons, given_cons] at same
          rw [ih (List.nodup_cons.1 distinct).2 restNames (List.append_cancel_left same)]

namespace QueryOptions

/-! ## The options of a query -/

theorem digits_eq (value : Int64) : digits value = toString value.toInt := by
  rw [digits, Json.integerChars]
  cases value.toInt with
  | ofNat n => exact Nat.toString_eq_ofList_toDigits.symm
  | negSucc n =>
      rw [if_pos (Int.negSucc_lt_zero n), Int.natAbs_negSucc, String.ofList_cons]
      exact congrArg ("-" ++ ·) Nat.toString_eq_ofList_toDigits.symm

theorem named_eq {α : Type} (name : String) (value : Option α) (text : α → String) :
    named name value text = ((value.map text).map (name, ·)).toList := by
  cases value <;> rfl

theorem pairs_eq (options : QueryOptions) : options.pairs = given options.declared := by
  have debug : (if options.debug then some () else .none).map (fun _ => "true") =
      if options.debug then some "true" else .none := by
    cases options.debug <;> rfl
  have number : digits = fun value => toString value.toInt := funext digits_eq
  have nothing : given [] = [] := rfl
  rw [pairs, declared]
  simp only [named_eq, given_cons, nothing, debug, number, Option.map_id, id, List.append_assoc,
    List.append_nil]

theorem distinct_declared (options : QueryOptions) : (options.declared.map Prod.fst).Nodup := by
  change ["debug", "trim", "sort", "order", "session_time", "segments"].Nodup
  decide

theorem SortOrder.name_injective : Function.Injective SortOrder.name := by
  intro order other same
  cases order <;> cases other <;> first | rfl | exact absurd same (by decide)

theorem natural_injective {n m : Nat} (same : toString n = toString m) : n = m := by
  rw [Nat.toString_eq_ofList_toDigits, Nat.toString_eq_ofList_toDigits, String.ofList_inj] at same
  rw [← @Nat.ofDigitChars_ten_toDigits n, same, Nat.ofDigitChars_ten_toDigits]

/-- The digits of a natural number do not begin with a minus. -/
theorem natural_ne_negative (n : Nat) (text : String) : toString n ≠ "-" ++ text := by
  intro same
  have minus : '-' ∈ (toString n).toList := by
    rw [same, String.toList_append]
    exact List.mem_append_left _ List.mem_cons_self
  rw [Nat.toString_eq_ofList_toDigits, String.toList_ofList] at minus
  exact absurd (Nat.isDigit_of_mem_toDigits (by decide) (by decide) minus) (by decide)

theorem number_injective : Function.Injective fun value : Int64 => toString value.toInt := by
  intro value other same
  refine Int64.toInt_inj.1 ?_
  dsimp only at same
  cases first : value.toInt with
  | ofNat n =>
      cases second : other.toInt with
      | ofNat m =>
          rw [first, second] at same
          exact congrArg Int.ofNat (natural_injective same)
      | negSucc m =>
          rw [first, second] at same
          exact absurd same (natural_ne_negative n _)
  | negSucc n =>
      cases second : other.toInt with
      | ofNat m =>
          rw [first, second] at same
          exact absurd same.symm (natural_ne_negative m _)
      | negSucc m =>
          rw [first, second] at same
          have digits := natural_injective ((String.append_right_inj "-").1 same)
          exact congrArg Int.negSucc (Nat.succ.inj digits)

/-- No two options are declared alike. -/
theorem declared_injective : Function.Injective declared := by
  intro options other same
  simp only [declared, List.cons.injEq, Prod.mk.injEq, true_and, and_true] at same
  obtain ⟨debug, trim, sort, order, sessionTime, segments⟩ := same
  have flags : options.debug = other.debug := by
    cases first : options.debug <;> cases second : other.debug <;> simp [first, second] at debug ⊢
  cases options
  cases other
  rw [mk.injEq]
  exact ⟨flags, Option.map_injective number_injective trim, sort,
    Option.map_injective SortOrder.name_injective order,
    Option.map_injective number_injective sessionTime, segments⟩

end QueryOptions

namespace Call

open Url (segmentOf)

/-! ## Requests -/

theorem distinct_declared (call : Call) : (call.declared.map Prod.fst).Nodup := by
  cases call with
  | query _ _ options => exact options.distinct_declared
  | initCluster _ =>
      change ["partitions"].Nodup
      decide
  | inviteNode _ _ =>
      change ["host", "port"].Nodup
      decide
  | addColumn _ _ _ _ =>
      change ["type", "is_set"].Nodup
      decide
  | _ => exact List.nodup_nil

/-- The URL of a call is the way down, with the parameters that are set behind it. -/
theorem url_toRequest {base : Url} (plain : base.query = none) (call : Call) :
    (call.toRequest base).url = (base.below call.way).withPairs (given call.declared) := by
  have bare (names : List String) : base.below names = (base.below names).withPairs [] := by
    have below : (base.below names).query = none := plain
    rw [Url.withPairs, below]
    exact congrArg (fun query => { base.below names with query := query }) below
  cases call with
  | query table code options =>
      exact congrArg (base.below ["v1", "query", table, "event"]).withPairs options.pairs_eq
  | addColumn table name type isSet => cases isSet <;> rfl
  | initCluster partitions => rfl
  | inviteNode host port => rfl
  | status => exact bare _
  | createTable table definition => exact bare _
  | describeTable table => exact bare _
  | dropColumn table name => exact bare _
  | insert batch => exact bare _

variable {base : Url} {call : Call} {request : Http.Request}

theorem parameters_of_request (plain : base.query = none) (formed : call.request base = .ok request) :
    request.url.parameters = given call.declared := by
  have below : (base.below call.way).query = none := plain
  rw [(of_request formed).1, url_toRequest plain, Url.parameters_withPairs below]

theorem query_of_request (plain : base.query = none) (formed : call.request base = .ok request) :
    request.url.query = none ↔ ∀ parameter ∈ call.declared, parameter.2 = none := by
  have below : (base.below call.way).query = none := plain
  rw [(of_request formed).1, url_toRequest plain, Url.query_withPairs below, ← given_eq_nil_iff]
  simp

/-- Calls that lead the same way and have one URL are given the same parameters. -/
theorem given_eq_of_text_eq {other : Call} {another : Http.Request} (plain : base.query = none)
    (formed : call.request base = .ok request) (formed' : other.request base = .ok another)
    (way : other.way = call.way) (same : another.url.text = request.url.text) :
    given other.declared = given call.declared := by
  rw [← parameters_of_request plain formed, ← parameters_of_request plain formed']
  rw [(of_request formed).1, (of_request formed').1, url_toRequest plain, url_toRequest plain, way] at same ⊢
  have queries : ((base.below call.way).withPairs (given other.declared)).query =
      ((base.below call.way).withPairs (given call.declared)).query := Url.query_eq_of_text_eq same
  rw [Url.parameters, queries, Url.parameters]

/-! ## Queries of tables -/

section

variable {table otherTable code otherCode : String} {options others : QueryOptions} {another : Http.Request}

/-- The text of a query's path is that of a front which does not hang on the query, and then the table. -/
theorem pathText_of_query (formed : (query table code options).request base = .ok request) :
    request.url.pathText =
      "/" ++ "/".intercalate (Url.stem base.path ++ ["v1", "query"]) ++ "/" ++ table ++ "/event" := by
  have column : (query table code options).PlainColumn := nofun
  obtain ⟨checked, rfl⟩ := (of_request formed).2 table rfl
  have path := path_of_request formed column
  have words : (query checked.text code options).way.map segmentOf =
      ["v1", "query"] ++ [checked.text, "event"] := by
    have fixed : segmentOf "v1" = "v1" ∧ segmentOf "query" = "query" ∧ segmentOf "event" = "event" := by
      decide
    simp only [way, List.map_cons, List.map_nil, fixed, Url.segmentOf_table, List.cons_append,
      List.nil_append]
  have begun : Url.stem base.path ++ ["v1", "query"] ≠ [] := by simp
  have last : "/".intercalate [checked.text, "event"] = checked.text ++ "/event" := by
    apply String.toList_inj.1
    simp
  rw [Url.pathText, path, words, ← List.append_assoc,
    String.intercalate_append_of_ne_nil begun (List.cons_ne_nil _ _), last]
  simp only [String.append_assoc]

/-- URLs of calls on one base differ in path and query at most. -/
theorem target_eq_of_text_eq {call other : Call} (formed : call.request base = .ok request)
    (formed' : other.request base = .ok another) (same : another.url.text = request.url.text) :
    another.url.target = request.url.target := by
  obtain ⟨front, behind, text⟩ : ∃ front behind, ∀ {call : Call} {request : Http.Request},
      call.request base = .ok request → request.url.text = front ++ request.url.target ++ behind := by
    refine ⟨base.scheme ++ "://" ++ base.userText ++ base.host.text ++ Url.marked ":" (base.port.map toString),
      Url.marked "#" base.fragment, ?_⟩
    intro call request formed
    rw [(of_request formed).1]
    cases call <;> rfl
  rw [text formed, text formed'] at same
  exact (String.append_right_inj _).1 ((String.append_left_inj _).1 same)

/-- The URL of a query tells its table. -/
theorem table_eq_of_text_eq (formed : (query table code options).request base = .ok request)
    (formed' : (query otherTable otherCode others).request base = .ok another)
    (same : another.url.text = request.url.text) : otherTable = table := by
  obtain ⟨checked, rfl⟩ := (of_request formed).2 table rfl
  obtain ⟨checked', rfl⟩ := (of_request formed').2 otherTable rfl
  have targets := target_eq_of_text_eq formed formed' same
  rw [Url.target, Url.target, pathText_of_query formed, pathText_of_query formed'] at targets
  simp only [String.append_assoc, String.append_right_inj] at targets
  have chars := congrArg (fun text => text.toList.takeWhile (· ≠ '/')) targets
  have upToSlash (name : TableName) (rest : String) :
      (name.text ++ ("/event" ++ rest)).toList.takeWhile (· ≠ '/') = name.text.toList := by
    have word : ∀ c ∈ name.text.toList, decide (c ≠ '/') = true := by
      intro c inside
      refine decide_eq_true ?_
      rintro rfl
      exact absurd (name.wordChars '/' inside) (by decide)
    rw [String.toList_append, String.toList_append, List.takeWhile_append_of_pos word]
    exact List.append_nil _
  simp only [upToSlash] at chars
  exact String.toList_inj.1 chars

end

/-- A server finds in the query of a call the parameters that are set, in their order and with the values they
were given, and no query when none is set. What stands under one name hangs on the parameter of this name
only, whatever the other values hold; and two queries have one URL only if table and options are the same. -/
theorem parameters_eq_declared (plain : base.query = none) (formed : call.request base = .ok request) :
    request.url.parameters = given call.declared ∧
      (request.url.query = none ↔ ∀ parameter ∈ call.declared, parameter.2 = none) ∧
      (∀ name value, (name, value) ∈ call.declared →
        request.url.parameters.filter (·.1 = name) = (value.map (name, ·)).toList) ∧
      ∀ table code options, call = .query table code options →
        ∀ otherTable otherCode others another,
          (Call.query otherTable otherCode others).request base = .ok another →
            (another.url.text = request.url.text ↔ otherTable = table ∧ others = options) := by
  have found := parameters_of_request plain formed
  refine ⟨found, query_of_request plain formed, ?_, ?_⟩
  · intro name value present
    rw [found]
    exact filter_given call.distinct_declared present
  · intro table code options asked otherTable otherCode others another formed'
    subst asked
    constructor
    · intro same
      obtain rfl := table_eq_of_text_eq formed formed' same
      have alike := given_eq_of_text_eq plain formed formed' rfl same
      exact ⟨rfl, QueryOptions.declared_injective (eq_of_given_eq options.distinct_declared rfl alike)⟩
    · rintro ⟨rfl, rfl⟩
      rw [(of_request formed).1, (of_request formed').1]
      rfl

/-- Options whose texts hold all that divides a query. -/
def waywardOptions : QueryOptions :=
  ⟨true, some (-5), some "a&trim=9", some .descending, none, some "é +%"⟩

theorem parameters_eq_declared_wayward :
    node.query = none ∧
      (query "t" "code" waywardOptions).request node =
        .ok ((query "t" "code" waywardOptions).toRequest node) ∧
      ((query "t" "code" waywardOptions).toRequest node).url.query =
        some "debug=true&trim=-5&sort=a%26trim%3D9&order=desc&segments=%C3%A9+%2B%25" ∧
      ((query "t" "code" waywardOptions).toRequest node).url.parameters =
        [("debug", "true"), ("trim", "-5"), ("sort", "a&trim=9"), ("order", "desc"), ("segments", "é +%")] ∧
      ((query "t" "code" waywardOptions).toRequest node).url.parameters.filter (·.1 = "trim") =
        [("trim", "-5")] := by
  have plain : node.query = none := rfl
  have formed : (query "t" "code" waywardOptions).request node =
      .ok ((query "t" "code" waywardOptions).toRequest node) := rfl
  obtain ⟨found, _, alone, _⟩ := parameters_eq_declared plain formed
  refine ⟨plain, formed, ?_, ?_, ?_⟩
  · decide +kernel
  · rw [found]
    decide +kernel
  · rw [alone "trim" (some "-5") (by decide +kernel)]
    rfl

end Call

end Client

end EventFeed
