import EventFeed.Environment.Basic
import EventFeed.Environment.Gather
import EventFeed.Unicode.Alphanumeric

/-!
# Entries of an environment file

An entry names a variable and its value, with an equals sign between them. In a value, quotes keep blanks
together, a backslash escapes, and outside single quotes a dollar sign puts in the value of a variable.
-/

namespace EventFeed.Environment

def beginsName (c : Char) : Bool :=
  c.isAlpha || c = '_'

def continuesName (c : Char) : Bool :=
  c.isAlphanum || c = '_' || c = '.'

def takeName? (text : List Char) : Option (String × List Char) :=
  match text with
  | [] => none
  | c :: _ =>
      if beginsName c then some (String.ofList (text.takeWhile continuesName), text.dropWhile continuesName)
      else none

def skipBlanks (text : List Char) : List Char :=
  text.dropWhile Text.isBlank

/-- Where in a value one is. Within double quotes the flag is set. -/
inductive Place where
  | free (quoted : Bool)
  | escaped (quoted : Bool)
  | single
  /-- In the name of a variable behind a dollar sign. -/
  | named (quoted : Bool) (name : List Char)
  /-- In the name of a variable between braces. -/
  | braced (quoted : Bool) (name : List Char)
  /-- Behind a blank that ends the value. -/
  | ended
  | comment
  deriving DecidableEq, Repr

namespace Place

def unescape? (c : Char) : Option Char :=
  if c = 'n' then some '\n'
  else if c = '\\' || c = '\'' || c = '"' || c = '$' || c = ' ' then some c
  else none

/-- The place behind a character, and what the character adds to the value; none when it cannot stand
there. The character behind a variable's name is taken as it is, also when it is a quote. -/
def step (environment : Environment) : Place → Char → Option (Place × List Char)
  | .ended, c =>
      if c = ' ' || c = '\t' then some (.ended, []) else if c = '#' then some (.comment, []) else none
  | .comment, _ => some (.comment, [])
  | .escaped quoted, c => (unescape? c).map fun c => (.free quoted, [c])
  | .single, c => if c = '\'' then some (.free false, []) else some (.single, [c])
  | .named quoted name, c =>
      if Unicode.isAlphanumeric c then some (.named quoted (name ++ [c]), [])
      else if c = '\x7b' ∧ name = [] then some (.braced quoted [], [])
      else
        let value := (environment.valueOrNothing (String.ofList name)).toList
        if c = '$' then some (.named quoted [], value) else some (.free quoted, value ++ [c])
  | .braced quoted name, c =>
      if c = '\x7d' then some (.free quoted, (environment.valueOrNothing (String.ofList name)).toList)
      else some (.braced quoted (name ++ [c]), [])
  | .free quoted, c =>
      if c = '$' then some (.named quoted [], [])
      else if c = '\\' then some (.escaped quoted, [])
      else if c = '"' then some (.free (!quoted), [])
      else if quoted then some (.free true, [c])
      else if c = '\'' then some (.single, [])
      else if c = ' ' || c = '\t' then some (.ended, [])
      else some (.free false, [c])

/-- What the end of a value adds to it; none when a quote or brace is open. -/
def finish? (environment : Environment) : Place → Option (List Char)
  | .named false name => some (environment.valueOrNothing (String.ofList name)).toList
  | .free false | .escaped false | .ended | .comment => some []
  | _ => none

end Place

/-- The value that a text stands for, or the index where the text goes wrong. -/
def valueFrom (environment : Environment) (last : Nat) :
    (index : Nat) → Place → List Char → Except Nat (List Char)
  | _, place, [] =>
      match place.finish? environment with
      | some added => .ok added
      | none => .error last
  | index, place, c :: rest =>
      match place.step environment c with
      | none => .error index
      | some (place, added) =>
          match valueFrom environment last (index + 1) place rest with
          | .ok value => .ok (added ++ value)
          | .error index => .error index

def value (environment : Environment) (text : List Char) : Except FileFault String :=
  if text = [] ∨ text.head? = some '#' then .ok ""
  else
    match valueFrom environment (byteCount text - 1) 0 (.free false) text with
    | .ok value => .ok (String.ofList value)
    | .error index => .error (.line (String.ofList text) index)

/-- What follows the equals sign and a name before it. The word `export` may stand before the name, and may
be the name. The other result is where the text goes wrong. -/
def assignment (text : List Char) : Except (List Char) (String × List Char) :=
  match takeName? text with
  | none => .error text
  | some (name, rest) =>
      match skipBlanks rest with
      | '=' :: rest => .ok (name, rest)
      | rest =>
          if name = "export" then
            match takeName? rest with
            | none => .error rest
            | some (name, rest) =>
                match skipBlanks rest with
                | '=' :: rest => .ok (name, rest)
                | rest => .error rest
          else .error rest

/-- The entry on a line; none on a line without one. -/
def entry (environment : Environment) (line : List Char) : Except FileFault (Option (String × String)) :=
  let text := (skipBlanks line.reverse).reverse
  let begun := skipBlanks text
  if begun = [] ∨ begun.head? = some '#' then .ok none
  else
    match assignment begun with
    | .error rest => .error (.line (String.ofList line) (byteCount text - byteCount rest))
    | .ok (name, rest) =>
        match value environment (skipBlanks rest) with
        | .error fault => .error fault
        | .ok value => .ok (some (name, value))

/-- Offers the entries of lines one after the other, up to the first fault. -/
def offerLines (environment : Environment) :
    List (Except FileFault (List Char)) → Environment × Option FileFault
  | [] => (environment, none)
  | .error fault :: _ => (environment, some fault)
  | .ok line :: rest =>
      match entry environment line with
      | .error fault => (environment, some fault)
      | .ok none => offerLines environment rest
      | .ok (some (name, value)) => offerLines (environment.offer name value) rest

def load (environment : Environment) (file : Content) : Environment × Option FileFault :=
  environment.offerLines (gather [] .plain (lines (withoutMark file)))

end EventFeed.Environment
