import EventFeed.Command.Order

/-!
# Help

What is told about tools and their parameters.
-/

namespace EventFeed.Command

def Tool.all : List Tool :=
  [.status, .initCluster, .inviteNode, .describeTable, .createTable, .query, .insert]

def Tool.name : Tool → String
  | .status => "status"
  | .initCluster => "init-cluster"
  | .inviteNode => "invite-node"
  | .describeTable => "describe-table"
  | .createTable => "create-table"
  | .query => "query"
  | .insert => "insert"

def Tool.ofName? (name : String) : Option Tool :=
  Tool.all.find? fun tool => tool.name == name

theorem Tool.ofName?_name (tool : Tool) : Tool.ofName? tool.name = some tool := by
  cases tool <;> rfl

def Stop.text : Stop → String
  | .unknownWord => "unexpected argument"
  | .unwantedValue => "unexpected value for an option"
  | .missingValue => "a value is required for an option but none was supplied"
  | .badValue => "invalid value for an option"
  | .repeatedParameter => "an option cannot be used multiple times"
  | .missingParameter => "a required option was not provided"
  | .helpWanted => ""

def Parameter.usage (parameter : Parameter) : String :=
  let letter := match parameter.letter with
    | some letter => "-" ++ letter.toString ++ ", "
    | none => "    "
  let value := if parameter.form.takesValue then " <" ++ parameter.name.toUpper ++ ">" else ""
  let needed := if parameter.required then " (required)" else ""
  "  " ++ letter ++ "--" ++ parameter.name ++ value ++ needed

def Tool.usage (tool : Tool) : String :=
  "Usage: " ++ tool.name ++ " [OPTIONS]\n\nOptions:\n" ++
    String.join (tool.parameters.map fun parameter => parameter.usage ++ "\n")

def usage : String :=
  "Usage: <TOOL> [OPTIONS]\n\nTools:\n" ++ String.join (Tool.all.map fun tool => "  " ++ tool.name ++ "\n")

end EventFeed.Command
