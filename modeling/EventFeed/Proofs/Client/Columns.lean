import EventFeed.Client.Call
import EventFeed.Proofs.Url.Segments

/-!
# Where calls lead

Every call names what it is about by a way down from the base. The way of a call about a column ends with
the column's name, which nobody has checked. A plain name is kept, and then no other call leads to the same
path; any other name leads elsewhere.
-/

namespace EventFeed.Client.Call

open Url (Plain StandsFor segmentOf)

/-! ## The way down -/

def way : Call → List String
  | .initCluster _ => ["v1", "cluster", "init"]
  | .inviteNode .. => ["v1", "cluster", "join"]
  | .status => ["v1", "status"]
  | .createTable table _ => ["v1", "table", table]
  | .describeTable table => ["v1", "table", table]
  | .addColumn table name _ _ => ["v1", "table", table, "column", name]
  | .dropColumn table name => ["v1", "table", table, "column", name]
  | .insert batch => ["v1", "insert", batch.table.text]
  | .query table _ _ => ["v1", "query", table, "event"]

/-- The table and the column of a call about a column. -/
def column? : Call → Option (String × String)
  | .addColumn table name _ _ => some (table, name)
  | .dropColumn table name => some (table, name)
  | _ => none

/-- If the call is about a column, the column's name is plain. -/
def PlainColumn (call : Call) : Prop :=
  ∀ table name, call.column? = some (table, name) → Plain name

theorem path_toRequest (base : Url) (call : Call) :
    (call.toRequest base).url.path = (base.below call.way).path := by
  cases call <;> rfl

/-- Only calls about columns go as far down as to a column. -/
theorem column?_of_way {call : Call} {table name : String}
    (leads : call.way = ["v1", "table", table, "column", name]) : call.column? = some (table, name) := by
  cases call with
  | addColumn _ _ _ _ =>
      cases leads
      rfl
  | dropColumn _ _ =>
      cases leads
      rfl
  | _ => simp [way] at leads

theorem way_of_column? {call : Call} {table name : String} (about : call.column? = some (table, name)) :
    call.way = ["v1", "table", table, "column", name] ∧ call.table? = some table := by
  cases call with
  | addColumn _ _ _ _ =>
      cases about
      exact ⟨rfl, rfl⟩
  | dropColumn _ _ =>
      cases about
      exact ⟨rfl, rfl⟩
  | _ => cases about

/-! ## Requests that are formed -/

/-- A request is formed when the table that the call names, if any, has a right name. -/
theorem of_request {base : Url} {call : Call} {request : Http.Request}
    (formed : call.request base = .ok request) :
    request = call.toRequest base ∧
      ∀ table, call.table? = some table → ∃ name : TableName, name.text = table := by
  unfold Call.request at formed
  split at formed
  · rename_i unnamed
    cases formed
    refine ⟨rfl, ?_⟩
    intro table named
    rw [unnamed] at named
    cases named
  · rename_i table named
    split at formed
    · rename_i name checked
      cases formed
      refine ⟨rfl, ?_⟩
      intro other named'
      rw [named] at named'
      cases named'
      exact ⟨name, TableName.text_of_check checked⟩
    · cases formed

theorem plain_way {base : Url} {call : Call} {request : Http.Request}
    (formed : call.request base = .ok request) (column : call.PlainColumn) :
    ∀ name ∈ call.way, Plain name := by
  have named : ∀ table, call.table? = some table → Plain table := by
    intro table named
    obtain ⟨checked, rfl⟩ := (of_request formed).2 table named
    exact Url.plain_table checked
  -- All that stands on ways is one of these words, the table, or the column.
  have fixed : Plain "v1" ∧ Plain "cluster" ∧ Plain "init" ∧ Plain "join" ∧ Plain "status" ∧
      Plain "table" ∧ Plain "column" ∧ Plain "insert" ∧ Plain "query" ∧ Plain "event" := by
    decide
  cases call with
  | initCluster _ => simp [way, fixed]
  | inviteNode _ _ => simp [way, fixed]
  | status => simp [way, fixed]
  | createTable table _ => simp [way, fixed, named table rfl]
  | describeTable table => simp [way, fixed, named table rfl]
  | addColumn table name _ _ => simp [way, fixed, named table rfl, column table name rfl]
  | dropColumn table name => simp [way, fixed, named table rfl, column table name rfl]
  | insert batch => simp [way, fixed, Url.plain_table batch.table]
  | query table _ _ => simp [way, fixed, named table rfl]

variable {base : Url} {call : Call} {request : Http.Request} {table name : String}

/-- The path of a call goes on with what stands on its way. -/
theorem path_of_request (formed : call.request base = .ok request) (column : call.PlainColumn) :
    request.url.path = Url.stem base.path ++ call.way.map segmentOf := by
  have plain := plain_way formed column
  obtain ⟨rest, begins⟩ : ∃ rest, call.way = "v1" :: rest := by
    cases call <;> exact ⟨_, rfl⟩
  rw [begins] at plain
  rw [(of_request formed).1, path_toRequest, begins, Url.path_below base (by decide) plain]

/-- The segments above a column. -/
def aboveColumn (table : String) : List String :=
  ["v1", "table", table, "column"]

theorem two_le_length_above (path : List String) (table : String) : 2 ≤ (path ++ aboveColumn table).length := by
  rw [List.length_append]
  exact Nat.le_trans (by decide : 2 ≤ 4) (Nat.le_add_left 4 path.length)

theorem noSlash_aboveColumn (table : TableName) : ∀ segment ∈ aboveColumn table.text, '/' ∉ segment.toList := by
  have word : '/' ∉ table.text.toList := fun slash => absurd (table.wordChars '/' slash) (by decide)
  simp [aboveColumn, word]

/-- Whatever the name of a column is, the last step down begins at the table's columns. -/
theorem path_of_column (formed : call.request base = .ok request)
    (about : call.column? = some (table, name)) :
    request.url.path = Url.descend (Url.stem base.path ++ aboveColumn table) name := by
  obtain ⟨leads, named⟩ := way_of_column? about
  obtain ⟨checked, rfl⟩ := (of_request formed).2 table named
  have plain : ∀ step ∈ ["v1", "table", checked.text, "column"], Plain step := by
    intro step present
    simp only [List.mem_cons, List.not_mem_nil, or_false] at present
    rcases present with rfl | rfl | rfl | rfl
    · decide
    · decide
    · exact Url.plain_table checked
    · decide
  have above : (base.below ["v1", "table", checked.text, "column"]).path =
      Url.stem base.path ++ aboveColumn checked.text := by
    have fixed : segmentOf "v1" = "v1" ∧ segmentOf "table" = "table" ∧ segmentOf "column" = "column" := by
      decide
    rw [Url.path_below base (by decide) plain]
    simp only [List.map_cons, List.map_nil, Url.segmentOf_table, fixed, aboveColumn]
  rw [(of_request formed).1, path_toRequest, leads, ← above]
  rfl

/-- A call leads to what it names exactly if it keeps to plain names. -/
theorem liesBelow_iff (formed : call.request base = .ok request) :
    request.url.LiesBelow base call.way ↔ call.PlainColumn := by
  constructor
  · rintro ⟨_, segments, path, stand⟩ table name about
    have leads : call.way = aboveColumn table ++ [name] := (way_of_column? about).1
    rw [leads] at stand
    have front := List.forall₂_take_append segments (aboveColumn table) [name] stand
    have behind := List.forall₂_drop_append segments (aboveColumn table) [name] stand
    obtain ⟨segment, none, column, rest, last⟩ := List.forall₂_cons_right_iff.1 behind
    rw [List.forall₂_nil_right_iff.1 rest] at last
    have added : Url.descend (Url.stem base.path ++ aboveColumn table) name =
        (Url.stem base.path ++ segments.take (aboveColumn table).length) ++ [segment] := by
      rw [← path_of_column formed about, path, List.append_assoc, ← last, List.take_append_drop]
    have longer : (Url.stem base.path ++ segments.take (aboveColumn table).length).length =
        (Url.stem base.path ++ aboveColumn table).length := by
      rw [List.length_append, List.length_append, front.length_eq]
    exact Url.plain_of_descend (two_le_length_above _ _) added longer column
  · intro column
    constructor
    · rw [(of_request formed).1]
      cases call <;> exact ⟨rfl, rfl, rfl, rfl, rfl⟩
    · exact ⟨_, path_of_request formed column, Url.forall₂_segmentOf call.way⟩

/-! ## From the root -/

theorem stem_of_root (root : base.path = [""]) : Url.stem base.path = [] := by
  rw [root]
  rfl

/-- A path is that of a column: behind the columns of the table stands one segment, and it stands for the
name. -/
def IsColumnPath (path table name : String) : Prop :=
  ∃ segment : String, path = "/v1/table/" ++ table ++ "/column/" ++ segment ∧ StandsFor segment name

theorem pathText_aboveColumn (table segment : String) :
    "/" ++ "/".intercalate (aboveColumn table ++ [segment]) =
      "/v1/table/" ++ table ++ "/column/" ++ segment := by
  apply String.toList_inj.1
  simp [aboveColumn]

/-- A call asks for its column exactly if the column's name is plain. -/
theorem isColumnPath_iff (root : base.path = [""]) (formed : call.request base = .ok request)
    (about : call.column? = some (table, name)) :
    IsColumnPath request.url.pathText table name ↔ Plain name := by
  have leads := path_of_column formed about
  rw [stem_of_root root, List.nil_append] at leads
  obtain ⟨checked, rfl⟩ := (of_request formed).2 table (way_of_column? about).2
  have clear := noSlash_aboveColumn checked
  have nonempty : aboveColumn checked.text ≠ [] := List.cons_ne_nil _ _
  have deep : 2 ≤ (aboveColumn checked.text).length := two_le_length_above [] _
  constructor
  · rintro ⟨segment, text, stands⟩
    have clear' : ∀ part ∈ aboveColumn checked.text ++ [segment], '/' ∉ part.toList := by
      intro part present
      rcases List.mem_append.1 present with above | last
      · exact clear part above
      · rw [List.mem_singleton.1 last]
        exact fun slash => (stands.clear '/' slash).1 rfl
    rw [← pathText_aboveColumn, Url.pathText, leads] at text
    have same := Url.eq_of_intercalate_eq (Url.noSlash_descend clear name) clear'
      (Url.descend_ne_nil nonempty name) (List.append_ne_nil_of_left_ne_nil nonempty _)
      (String.append_right_inj "/" |>.1 text)
    exact Url.plain_of_descend deep same rfl stands
  · intro plain
    refine ⟨segmentOf name, ?_, Url.standsFor_segmentOf name⟩
    rw [← pathText_aboveColumn, Url.pathText, leads, Url.descend_of_plain plain,
      Url.addSegment_of_deep deep]

/-- Ways of plain names that end in one path are one way. -/
theorem way_eq_of_pathText_eq (root : base.path = [""]) (formed : call.request base = .ok request)
    (column : call.PlainColumn) {other : Call} {another : Http.Request}
    (formed' : other.request base = .ok another) (column' : other.PlainColumn)
    (same : another.url.pathText = request.url.pathText) : other.way = call.way := by
  have clear : ∀ call : Call, ∀ segment ∈ call.way.map segmentOf, '/' ∉ segment.toList := by
    intro call segment present slash
    obtain ⟨name, _, rfl⟩ := List.mem_map.1 present
    exact ((Url.standsFor_segmentOf name).clear '/' slash).1 rfl
  have nonempty : ∀ call : Call, call.way.map segmentOf ≠ [] := by
    intro call
    cases call <;> exact List.cons_ne_nil _ _
  rw [Url.pathText, Url.pathText, path_of_request formed column, path_of_request formed' column',
    stem_of_root root, List.nil_append, List.nil_append] at same
  have segments := Url.eq_of_intercalate_eq (clear other) (clear call) (nonempty other) (nonempty call)
    (String.append_right_inj "/" |>.1 same)
  exact List.map_injective_iff.2 Url.segmentOf_injective segments

def node : Url :=
  ⟨"http", "", "", .ipv4 0x7F000001, some 2020, [""], none, none⟩

/-- From the root, a call about a column asks for that column exactly if the column's name is plain, and of
all calls that keep to plain names only those about the same column of the same table lead to its path. -/
theorem column_path_iff (root : base.path = [""]) (formed : call.request base = .ok request)
    (about : call.column? = some (table, name)) :
    (IsColumnPath request.url.pathText table name ↔ Plain name) ∧
      (Plain name → ∀ (other : Call) (another : Http.Request), other.request base = .ok another →
        other.PlainColumn → another.url.pathText = request.url.pathText →
          other.column? = some (table, name)) := by
  constructor
  · exact isColumnPath_iff root formed about
  · intro plain other another formed' column' same
    have column : call.PlainColumn := by
      intro table' name' about'
      rw [about] at about'
      cases about'
      exact plain
    apply column?_of_way
    rw [way_eq_of_pathText_eq root formed column formed' column' same]
    exact (way_of_column? about).1

/-- A name with separators and beyond ASCII is kept, and a call about a column whose name looks like its
escaped form leads elsewhere. -/
theorem column_path_iff_separators :
    (dropColumn "t" "a b/é").request node = .ok ((dropColumn "t" "a b/é").toRequest node) ∧
      IsColumnPath ((dropColumn "t" "a b/é").toRequest node).url.pathText "t" "a b/é" ∧
      ((addColumn "t" "a b%2Fé" .int true).toRequest node).url.pathText ≠
        ((dropColumn "t" "a b/é").toRequest node).url.pathText := by
  have root : node.path = [""] := rfl
  have formed : (dropColumn "t" "a b/é").request node = .ok ((dropColumn "t" "a b/é").toRequest node) := rfl
  have formed' : (addColumn "t" "a b%2Fé" .int true).request node =
      .ok ((addColumn "t" "a b%2Fé" .int true).toRequest node) := rfl
  obtain ⟨asked, alone⟩ := column_path_iff root formed rfl
  refine ⟨formed, asked.2 (by decide), ?_⟩
  intro same
  have column : (addColumn "t" "a b%2Fé" .int true).PlainColumn := by
    intro table name about
    cases about
    decide
  have about := alone (by decide) _ _ formed' column same
  exact absurd about (by decide)

/-- Dots behind a tab lead up to the table itself, a dot leads to all columns, and a tab within a name is left
out, so that two columns share a path. -/
theorem lost_columns :
    (∃ request, (dropColumn "t" "\t..").request node = .ok request ∧ request.method = .delete ∧
      request.url.pathText = "/v1/table/t/" ∧ ¬IsColumnPath request.url.pathText "t" "\t..") ∧
    (∃ request, (dropColumn "t" ".").request node = .ok request ∧
      request.url.pathText = "/v1/table/t/column" ∧ ¬IsColumnPath request.url.pathText "t" ".") ∧
    ((dropColumn "t" "a\tb").toRequest node).url.pathText =
      ((dropColumn "t" "ab").toRequest node).url.pathText := by
  have root : node.path = [""] := rfl
  have up : (dropColumn "t" "\t..").request node = .ok ((dropColumn "t" "\t..").toRequest node) := rfl
  have aside : (dropColumn "t" ".").request node = .ok ((dropColumn "t" ".").toRequest node) := rfl
  refine ⟨⟨_, up, rfl, by decide, ?_⟩, ⟨_, aside, by decide, ?_⟩, by decide⟩
  · intro asked
    exact absurd ((isColumnPath_iff root up rfl).1 asked) (by decide)
  · intro asked
    exact absurd ((isColumnPath_iff root aside rfl).1 asked) (by decide)

end EventFeed.Client.Call
