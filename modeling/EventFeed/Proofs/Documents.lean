import EventFeed.Client.Rejection
import EventFeed.Proofs.Schema.BothWays
import EventFeed.Table.Column

/-!
# Documents travel unchanged

Columns, table definitions, rejections and envelopes are written as their schemas ask. So each of them comes
back from its own text, whichever way it is read; and on any other text that both ways accept, they find the
same.
-/

namespace EventFeed

open Schema (Carries WritesFields carries_list)

/-! ## Columns and table definitions -/

namespace Column

theorem carries (column : Column) : Carries schema ofDatum? toJson column := by
  obtain ⟨name, type, isSet⟩ := column
  have known : ColumnType.names.contains type.name = true := by cases type <;> decide
  have distinct : (["name", "type", "is_set"] : List String).Nodup := by decide
  cases isSet with
  | true =>
      refine ⟨.record [.text name, .choice type.name, .flag true],
        .record distinct (.present (.text _) (.present (.choice known) (.present (.flag _) .nil))), ?_⟩
      rw [ofDatum?, ColumnType.ofDatum?, ColumnType.ofName?_name]
      rfl
  | false =>
      refine ⟨.record [.text name, .choice type.name, .nothing],
        .record distinct (.present (.text _) (.present (.choice known) (.missing .nil))), ?_⟩
      rw [ofDatum?, ColumnType.ofDatum?, ColumnType.ofName?_name]
      rfl

theorem lawful : Document.Lawful Column where
  refuses := by decide
  shallow := by decide
  written := carries

theorem listCarries (columns : List Column) : Carries listSchema listOfDatum? listToJson columns := by
  obtain ⟨data, all, back⟩ := carries_list carries columns
  exact ⟨.list data, .list all, back⟩

theorem lawful_list : Document.Lawful (List Column) where
  refuses := by decide
  shallow := by decide
  written := listCarries

end Column

namespace TableDefinition

theorem carries_text (text : String) : Carries .text textOfDatum? .string text :=
  ⟨.text text, .text _, rfl⟩

theorem carries (definition : TableDefinition) : Carries schema ofDatum? toJson definition := by
  obtain ⟨columns, zOrder⟩ := definition
  obtain ⟨column, here, back⟩ := Column.listCarries columns
  have distinct : (["columns", "z_order"] : List String).Nodup := by decide
  cases zOrder with
  | none =>
      refine ⟨.record [column, .nothing], .record distinct (.present here (.missing .nil)), ?_⟩
      rw [ofDatum?, back]
      rfl
  | some names =>
      obtain ⟨data, all, namesBack⟩ := carries_list carries_text names
      refine ⟨.record [column, .list data],
        .record distinct (.present here (.present (.optional (.list all)) .nil)), ?_⟩
      rw [ofDatum?, back]
      exact congrArg (Option.map _) namesBack

theorem lawful : Document.Lawful TableDefinition where
  refuses := by decide
  shallow := by decide
  written := carries

end TableDefinition

/-! ## Rejections and envelopes -/

namespace Rejection

/-- A remark is a field of its own or is left out, and comes back either way. -/
theorem exists_remark (key : String) (remark : Option String) :
    ∃ datum, remarkOfDatum? datum = some remark ∧
      ∀ {fields data members}, WritesFields fields data members →
        WritesFields ((key, false, .optional .text) :: fields) (datum :: data)
          (remarkField key remark ++ members) := by
  cases remark with
  | none => exact ⟨.nothing, rfl, .missing⟩
  | some text => exact ⟨.text text, rfl, .present (.optional (.text _))⟩

theorem carries (rejection : Rejection) : Carries schema ofDatum? toJson rejection := by
  obtain ⟨kind, message, detail, additional⟩ := rejection
  obtain ⟨datum, back, detailed⟩ := exists_remark "detail" detail
  obtain ⟨datum', back', added⟩ := exists_remark "additional" additional
  have distinct : (["class", "message", "detail", "additional"] : List String).Nodup := by decide
  refine ⟨.record [.text kind, .text message, datum, datum'], ?_, ?_⟩
  · have remarks := detailed (added .nil)
    rw [List.append_nil] at remarks
    exact .record distinct (.present (.text _) (.present (.text _) remarks))
  · rw [ofDatum?, back, back']
    rfl

theorem lawful : Document.Lawful Rejection where
  refuses := by decide
  shallow := by decide
  written := carries

end Rejection

namespace Envelope

theorem carries (envelope : Envelope) : Carries schema ofDatum? toJson envelope := by
  obtain ⟨datum, here, back⟩ := envelope.rejection.carries
  refine ⟨.record [datum], .record (List.pairwise_singleton _ _) (.present here .nil), ?_⟩
  rw [ofDatum?, back]
  rfl

theorem lawful : Document.Lawful Envelope where
  refuses := by decide
  shallow := by decide
  written := carries

end Envelope

namespace Document

/-- Every value of the types that travel is decoded from its own text, from the bytes and by way of the JSON
value, and where both ways accept a document of one of these types they find the same value. -/
theorem documents_come_back :
    ComesBack Column ∧ ComesBack (List Column) ∧ ComesBack TableDefinition ∧ ComesBack Rejection ∧
      ComesBack Envelope :=
  ⟨Column.lawful.comesBack, Column.lawful_list.comesBack, TableDefinition.lawful.comesBack,
    Rejection.lawful.comesBack, Envelope.lawful.comesBack⟩

end Document

end EventFeed
