import EventFeed.Schema.Document

/-!
# Columns and table definitions

A column has a name, a type and a mark for columns that hold sets. A table definition lists columns and,
optionally, the order in which rows are clustered. Both are written with their fields in a fixed order;
a field that has its default is left out.
-/

namespace EventFeed

inductive ColumnType where
  | int
  | double
  | text
  | bool
  deriving DecidableEq, Repr

namespace ColumnType

def name : ColumnType → String
  | .int => "int"
  | .double => "double"
  | .text => "text"
  | .bool => "bool"

def names : List String :=
  ["int", "double", "text", "bool"]

def ofName? (name : String) : Option ColumnType :=
  if name = "int" then some .int
  else if name = "double" then some .double
  else if name = "text" then some .text
  else if name = "bool" then some .bool
  else none

theorem ofName?_name (type : ColumnType) : ofName? type.name = some type := by
  cases type <;> decide

def schema : Schema :=
  .choice names

def ofDatum? : Datum → Option ColumnType
  | .choice name => ofName? name
  | _ => none

instance : Document ColumnType where
  schema := schema
  ofDatum? := ofDatum?
  toJson type := .string type.name

end ColumnType

structure Column where
  name : String
  type : ColumnType
  isSet : Bool
  deriving DecidableEq, Repr

namespace Column

def schema : Schema :=
  .record "ColumnDef"
    [("name", true, .text), ("type", true, ColumnType.schema), ("is_set", false, .flag)]

def ofDatum? : Datum → Option Column
  | .record [.text name, type, isSet] => do
      let type ← ColumnType.ofDatum? type
      match isSet with
      | .flag isSet => some ⟨name, type, isSet⟩
      | .nothing => some ⟨name, type, false⟩
      | _ => none
  | _ => none

def toJson (column : Column) : Json :=
  .object ([("name", .string column.name), ("type", .string column.type.name)] ++
    if column.isSet then [("is_set", .bool true)] else [])

instance : Document Column where
  schema := schema
  ofDatum? := ofDatum?
  toJson := toJson

def listSchema : Schema :=
  .list schema

def listOfDatum? : Datum → Option (List Column)
  | .list data => data.mapM ofDatum?
  | _ => none

def listToJson (columns : List Column) : Json :=
  .array (columns.map toJson)

instance : Document (List Column) where
  schema := listSchema
  ofDatum? := listOfDatum?
  toJson := listToJson

end Column

structure TableDefinition where
  columns : List Column
  zOrder : Option (List String)
  deriving DecidableEq, Repr

namespace TableDefinition

def schema : Schema :=
  .record "CreateTableRequest"
    [("columns", true, Column.listSchema), ("z_order", false, .optional (.list .text))]

def textOfDatum? : Datum → Option String
  | .text value => some value
  | _ => none

def ofDatum? : Datum → Option TableDefinition
  | .record [columns, zOrder] => do
      let columns ← Column.listOfDatum? columns
      match zOrder with
      | .nothing => some ⟨columns, none⟩
      | .list names => (names.mapM textOfDatum?).map fun names => ⟨columns, some names⟩
      | _ => none
  | _ => none

def toJson (definition : TableDefinition) : Json :=
  .object ([("columns", Column.listToJson definition.columns)] ++
    match definition.zOrder with
    | some names => [("z_order", .array (names.map .string))]
    | none => [])

instance : Document TableDefinition where
  schema := schema
  ofDatum? := ofDatum?
  toJson := toJson

end TableDefinition

end EventFeed
