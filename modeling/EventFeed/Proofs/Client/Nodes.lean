import EventFeed.Client.Settings
import EventFeed.Proofs.Client.Columns
import EventFeed.Proofs.Url.Servers

/-!
# Where clients are led

A client starts from a URL that is read from its host and its port together. This is the URL of the node at that
port only if the host names a server; a host with a slash, a question mark or a hash sign in it is
accepted all the same, and leads to the usual port of the web.
-/

namespace EventFeed.Client

variable {settings : Settings} {url : Url}

/-! ## The base -/

/-- What is read of the host: without the slashes at both its ends and without what is passed over. -/
def Settings.hostText (settings : Settings) : List Char :=
  ((settings.host.toList.reverse.dropWhile (· = '/')).reverse.filter fun c => !Url.isPassedOver c).dropWhile
    fun c => c = '/' || c = '\\'

/-- The host of the settings names a server, and nobody who asks there. -/
def Settings.NamesServer (settings : Settings) : Prop :=
  Url.NamesServer settings.hostText

theorem Settings.ofHttpText_serverText (settings : Settings) :
    Url.ofHttpText settings.serverText =
      Url.ofServerText "http" (settings.hostText ++ ':' :: Nat.toDigits 10 settings.port) := by
  have kept : (Nat.toDigits 10 settings.port).filter (fun c => !Url.isPassedOver c) =
      Nat.toDigits 10 settings.port := by
    apply List.filter_eq_self.2
    intro c inside
    have digit := Url.isDigit_of_mem_port inside
    cases passed : Url.isPassedOver c with
    | false => rfl
    | true =>
        simp only [Url.isPassedOver, Bool.or_eq_true, decide_eq_true_eq] at passed
        rcases passed with (rfl | rfl) | rfl <;> cases digit
  have digits : (toString settings.port).toList = Nat.toDigits 10 settings.port := Nat.toList_repr
  have clean : Url.cleaned settings.serverText = '/' :: '/' ::
      ((settings.host.toList.reverse.dropWhile (· = '/')).reverse.filter (fun c => !Url.isPassedOver c) ++
        ':' :: Nat.toDigits 10 settings.port) := by
    rw [Url.cleaned, serverText]
    simp only [String.toList_append, String.toList_ofList, List.filter_append, digits, kept, List.append_assoc]
    rfl
  rw [Url.ofHttpText, clean, hostText, List.dropWhile_cons_of_pos (by decide),
    List.dropWhile_cons_of_pos (by decide), List.dropWhile_append]
  split
  · rename_i none
    rw [List.isEmpty_iff.1 none]
    rfl
  · rfl

theorem Settings.ofServerText_of_base (made : settings.base = .ok url) :
    Url.ofServerText "http" (settings.hostText ++ ':' :: Nat.toDigits 10 settings.port) = .ok url := by
  rw [← ofHttpText_serverText]
  unfold base at made
  split at made
  · cases made
  · split at made
    · rename_i read
      rw [read, Except.ok.inj made]
    · cases made

/-! ## Calls from the base -/

/-- Whatever a call is about, its path goes below the version. -/
theorem Call.exists_path_below_version {call : Call} {request : Http.Request} (root : url.path = [""])
    (formed : call.request url = .ok request) :
    ∃ first rest, request.url.path = "v1" :: first :: rest := by
  cases about : call.column? with
  | none =>
      have noColumn : call.PlainColumn := by
        intro table name column
        rw [about] at column
        cases column
      rw [path_of_request formed noColumn, stem_of_root root, List.nil_append]
      have fixed : Url.segmentOf "v1" = "v1" := by decide
      cases call <;> exact ⟨_, _, congrArg (· :: _) fixed⟩
  | some column =>
      obtain ⟨table, name⟩ := column
      rw [path_of_column formed about, stem_of_root root, List.nil_append]
      have deep : ∀ segment, Url.addSegment (aboveColumn table) segment = aboveColumn table ++ [segment] :=
        Url.addSegment_of_deep (two_le_length_above [] table)
      have deepAbove : ∀ segment, Url.addSegment (aboveColumn table).dropLast segment =
          (aboveColumn table).dropLast ++ [segment] :=
        Url.addSegment_of_deep (by decide : 2 ≤ 3)
      have step := Url.descent (aboveColumn table) name
      generalize Url.descend (aboveColumn table) name = below at step
      cases step with
      | stayed _ => exact ⟨_, _, rfl⟩
      | wentUp _ =>
          rw [deepAbove]
          exact ⟨_, _, rfl⟩
      | wentAside _ =>
          rw [deep]
          exact ⟨_, _, rfl⟩
      | wentDown _ =>
          rw [deep]
          exact ⟨_, _, rfl⟩

theorem Call.pathText_below_version {call : Call} {request : Http.Request} (root : url.path = [""])
    (formed : call.request url = .ok request) : ∃ rest, request.url.pathText = "/v1/" ++ rest := by
  obtain ⟨first, rest, path⟩ := exists_path_below_version root formed
  refine ⟨"/".intercalate (first :: rest), ?_⟩
  rw [Url.pathText, path, String.intercalate_cons_cons]
  apply String.toList_inj.1
  simp

theorem Call.effectivePort?_of_request {call : Call} {request : Http.Request}
    (formed : call.request url = .ok request) : request.url.effectivePort? = url.effectivePort? := by
  rw [(of_request formed).1]
  cases call <;> rfl

/-- What a client starts from is the URL of the node, with nothing else in it, exactly if the host names a
server. Then every call goes to the node's port, and to a path below the version. -/
theorem base_isNode_iff (made : settings.base = .ok url) :
    (url.IsNode settings.port ↔ settings.NamesServer) ∧
      (settings.NamesServer → ∀ (call : Call) (request : Http.Request), call.request url = .ok request →
        request.url.effectivePort? = some settings.port ∧ ∃ rest, request.url.pathText = "/v1/" ++ rest) := by
  have node := Url.isNode_iff (Settings.ofServerText_of_base made)
  constructor
  · exact node
  · intro names call request formed
    have isNode := node.2 names
    constructor
    · rw [Call.effectivePort?_of_request formed]
      exact isNode.port
    · exact Call.pathText_below_version isNode.path formed

/-- Settings with a host between slashes, a user with no name and no password, and the usual port of the web. -/
def Settings.wrapped : Settings :=
  ⟨"/:@[::1]//", 80, Duration.ofMilliseconds 30000⟩

def webNode : Url :=
  ⟨"http", "", "", .ipv6 [0, 0, 0, 0, 0, 0, 0, 1], none, [""], none, none⟩

/-- Slashes around a host, an empty user and the usual port do no harm. -/
theorem base_isNode_iff_wrapped :
    Settings.wrapped.base = .ok webNode ∧ webNode.IsNode 80 ∧
      ((Call.dropColumn "t" "\t..").toRequest webNode).url.effectivePort? = some 80 := by
  have made : Settings.wrapped.base = .ok webNode := by decide +kernel
  have names : Settings.wrapped.NamesServer := by
    refine ⟨"[::1]".toList, .inr (.inr ?_), ?_⟩
    · decide +kernel
    · simp [Url.endsServer]
  obtain ⟨node, calls⟩ := base_isNode_iff made
  exact ⟨made, node.2 names, (calls names (.dropColumn "t" "\t..") _ rfl).1⟩

def Settings.withPath : Settings :=
  ⟨"[::1]/x", 2020, Duration.ofMilliseconds 30000⟩

/-- A slash within the host is accepted, and calls go to another port and to a path that begins with the port
meant. -/
theorem base_loses_port :
    ∃ url, Settings.withPath.base = .ok url ∧ ¬url.IsNode Settings.withPath.port ∧
      url.effectivePort? = some 80 ∧ url.path = ["x:2020"] ∧
      ∃ request, Call.status.request url = .ok request ∧ request.url.effectivePort? = some 80 ∧
        request.url.pathText = "/x:2020/v1/status" := by
  have made : Settings.withPath.base =
      .ok ⟨"http", "", "", .ipv6 [0, 0, 0, 0, 0, 0, 0, 1], none, ["x:2020"], none, none⟩ := by
    decide +kernel
  refine ⟨_, made, ?_, rfl, rfl, _, rfl, rfl, by decide⟩
  intro node
  exact absurd node.path (by decide)

end EventFeed.Client
