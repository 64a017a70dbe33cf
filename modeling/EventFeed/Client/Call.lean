import EventFeed.Batch
import EventFeed.Client.Query
import EventFeed.Http.Message
import EventFeed.Table.Column

/-!
# Calls

What the cluster can be asked to do, and the request for each. A call that names a table is refused
before anything is sent when the name is wrong; a batch was checked when it was made.
-/

namespace EventFeed.Client

inductive Call where
  | initCluster (partitions : Nat)
  | inviteNode (host : String) (port : Nat)
  | status
  | createTable (table : String) (definition : TableDefinition)
  | describeTable (table : String)
  | addColumn (table name : String) (type : ColumnType) (isSet : Bool)
  | dropColumn (table name : String)
  | insert (batch : Batch)
  | query (table code : String) (options : QueryOptions)

namespace Call

/-- The name under which requests are counted. -/
def route : Call → String
  | .initCluster _ => "init_cluster"
  | .inviteNode .. => "invite_node"
  | .status => "status"
  | .createTable .. => "create_table"
  | .describeTable _ => "describe_table"
  | .addColumn .. => "add_column"
  | .dropColumn .. => "drop_column"
  | .insert _ => "insert"
  | .query .. => "query_events"

def jsonBody (text : String) : Option Http.Body :=
  some ⟨"application/json", text⟩

def flagText (value : Bool) : String :=
  if value then "true" else "false"

/-- The table that a call names, unless that is settled already. -/
def table? : Call → Option String
  | .createTable table _ => some table
  | .describeTable table => some table
  | .addColumn table .. => some table
  | .dropColumn table _ => some table
  | .query table .. => some table
  | .initCluster _ => none
  | .inviteNode .. => none
  | .status => none
  | .insert _ => none

def toRequest (base : Url) : Call → Http.Request
  | .initCluster partitions =>
      ⟨.put, (base.below ["v1", "cluster", "init"]).withPairs [("partitions", toString partitions)], none⟩
  | .inviteNode host port =>
      ⟨.put, (base.below ["v1", "cluster", "join"]).withPairs [("host", host), ("port", toString port)],
        none⟩
  | .status => ⟨.get, base.below ["v1", "status"], none⟩
  | .createTable table definition =>
      ⟨.post, base.below ["v1", "table", table], jsonBody (Document.encode definition)⟩
  | .describeTable table => ⟨.get, base.below ["v1", "table", table], none⟩
  | .addColumn table name type isSet =>
      ⟨.put, (base.below ["v1", "table", table, "column", name]).withPairs
        [("type", type.name), ("is_set", flagText isSet)], none⟩
  | .dropColumn table name => ⟨.delete, base.below ["v1", "table", table, "column", name], none⟩
  | .insert batch => ⟨.post, base.below ["v1", "insert", batch.table.text], jsonBody batch.compact⟩
  | .query table code options =>
      ⟨.post, (base.below ["v1", "query", table, "event"]).withPairs options.pairs,
        some ⟨"text/plain", code⟩⟩

/-- The request for a call, unless the call names a table wrongly. -/
def request (base : Url) (call : Call) : Except Refusal Http.Request :=
  match call.table? with
  | none => .ok (call.toRequest base)
  | some table =>
      match TableName.check table with
      | .ok _ => .ok (call.toRequest base)
      | .error refusal => .error refusal

end Call

end EventFeed.Client
