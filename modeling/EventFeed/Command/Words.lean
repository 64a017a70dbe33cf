import EventFeed.Command.Parameter
import EventFeed.Environment.Basic

/-!
# Words of a command line

How the words of a command line are taken for parameters: `--name`, `--name=value`, and letters behind one
hyphen, of which several can stand together. A parameter that takes a value has it in the rest of its word
or in the next one, which must not begin with a hyphen. A value is read when the next parameter is met, or
at the end. Parameters that no word gives take the value of their variable.
-/

namespace EventFeed.Command

/-- The reading of a command line: what was taken, and the parameter whose value is yet to be read. -/
structure Reading where
  values : Values
  pending : Option (Parameter × Option String)

namespace Reading

/-- Takes a value for a parameter, which must have none. -/
def take (values : Values) (parameter : Parameter) (text : String) : Except Stop Values :=
  if values.has parameter.name then .error .repeatedParameter
  else
    match parameter.form.read text with
    | .error stop => .error stop
    | .ok value => .ok (values ++ [(parameter.name, value)])

def settle (reading : Reading) : Except Stop Values :=
  match reading.pending with
  | none => .ok reading.values
  | some (_, none) => .error .missingValue
  | some (parameter, some text) => take reading.values parameter text

def takeFlag (reading : Reading) (parameter : Parameter) : Except Stop Reading := do
  let values ← reading.settle
  if parameter.form = .help then .error .helpWanted
  else return ⟨← take values parameter "", none⟩

def takeValued (reading : Reading) (parameter : Parameter) (text : Option String) :
    Except Stop Reading := do
  let values ← reading.settle
  match text with
  | none => return ⟨values, some (parameter, none)⟩
  | some text => return ⟨← take values parameter text, none⟩

def takeOther (reading : Reading) (word : String) : Except Stop Reading :=
  match reading.pending with
  | some (parameter, none) => .ok ⟨reading.values, some (parameter, some word)⟩
  | _ => .error .unknownWord

def splitWord (word : List Char) : String × Option String :=
  match word.dropWhile (· != '=') with
  | _ :: value => (String.ofList (word.takeWhile (· != '=')), some (String.ofList value))
  | [] => (String.ofList word, none)

def takeLong (parameters : List Parameter) (reading : Reading) (word : List Char) :
    Except Stop Reading :=
  match parameters.find? fun parameter => parameter.name == (splitWord word).1 with
  | none => .error .unknownWord
  | some parameter =>
      if parameter.form.takesValue then reading.takeValued parameter (splitWord word).2
      else
        match (splitWord word).2 with
        | some _ => .error .unwantedValue
        | none => reading.takeFlag parameter

/-- The value in the rest of a word: everything behind a letter, without an equals sign before it. -/
def attached : List Char → Option String
  | [] => none
  | '=' :: rest => some (String.ofList rest)
  | rest => some (String.ofList rest)

def takeLetters (parameters : List Parameter) (reading : Reading) : List Char → Except Stop Reading
  | [] => .ok reading
  | letter :: rest =>
      match parameters.find? fun parameter => parameter.letter == some letter with
      | none => .error .unknownWord
      | some parameter =>
          if parameter.form.takesValue then reading.takeValued parameter (attached rest)
          else
            match reading.takeFlag parameter with
            | .error stop => .error stop
            | .ok reading => takeLetters parameters reading rest

/-- Takes all words. Behind two hyphens alone there may be no more of them. -/
def takeWords (parameters : List Parameter) (reading : Reading) : List String → Except Stop Values
  | [] => reading.settle
  | word :: rest =>
      match word.toList with
      | ['-', '-'] => if rest = [] then reading.settle else .error .unknownWord
      | '-' :: '-' :: long =>
          match reading.takeLong parameters long with
          | .error stop => .error stop
          | .ok reading => takeWords parameters reading rest
      | '-' :: letter :: letters =>
          match reading.takeLetters parameters (letter :: letters) with
          | .error stop => .error stop
          | .ok reading => takeWords parameters reading rest
      | _ =>
          match reading.takeOther word with
          | .error stop => .error stop
          | .ok reading => takeWords parameters reading rest

end Reading

/-- Takes the values of variables for parameters without one. -/
def takeVariables (environment : Environment) (values : Values) :
    List Parameter → Except Stop Values
  | [] => .ok values
  | parameter :: rest =>
      match parameter.fallback.bind environment.value?, values.has parameter.name with
      | some text, false =>
          match Reading.take values parameter text with
          | .error stop => .error stop
          | .ok values => takeVariables environment values rest
      | _, _ => takeVariables environment values rest

def readValues (parameters : List Parameter) (environment : Environment) (words : List String) :
    Except Stop Values :=
  match Reading.takeWords parameters ⟨[], none⟩ words with
  | .error stop => .error stop
  | .ok values =>
      match takeVariables environment values parameters with
      | .error stop => .error stop
      | .ok values =>
          if parameters.all fun parameter => !parameter.required || values.has parameter.name then .ok values
          else .error .missingParameter

end EventFeed.Command
