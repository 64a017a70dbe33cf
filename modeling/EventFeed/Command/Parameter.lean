import EventFeed.Files.Path

/-!
# Parameters of a command

What can be told on a command line: the names of parameters, the form of their values, and how a value is
read.
-/

namespace EventFeed.Command

/-- What ends the reading of a command line early. -/
inductive Stop where
  /-- A word that no parameter takes. -/
  | unknownWord
  /-- A value for a parameter that takes none. -/
  | unwantedValue
  /-- A parameter without a value, or with an empty path. -/
  | missingValue
  | badValue
  | repeatedParameter
  | missingParameter
  /-- Help was asked for. -/
  | helpWanted
  deriving DecidableEq, Repr

inductive Form where
  | help
  | flag
  | text
  | path
  /-- A number between two bounds, which may have a sign. -/
  | signed (least most : Int)
  /-- A number up to a bound, which may have a plus sign. -/
  | unsigned (most : Nat)
  deriving DecidableEq, Repr

def Form.takesValue : Form → Bool
  | .help | .flag => false
  | _ => true

/-- A number of 16 bits, as ports have. -/
def Form.port : Form := .signed 0 65535

def Form.count : Form := .unsigned 18446744073709551615

def Form.integer : Form := .signed (-9223372036854775808) 9223372036854775807

inductive Value where
  | given
  | text (text : String)
  | path (path : Path)
  | number (number : Int)
  deriving DecidableEq, Repr

/-- The number that digits spell, if they are digits and there is one at least. -/
def digits? (text : List Char) : Option Nat :=
  if text ≠ [] ∧ text.all Char.isDigit then
    some (text.foldl (fun number c => number * 10 + (c.toNat - 48)) 0)
  else none

def integer? (text : List Char) : Option Int :=
  match text with
  | '+' :: digits => (digits? digits).map Int.ofNat
  | '-' :: digits => (digits? digits).map fun number => -(Int.ofNat number)
  | digits => (digits? digits).map Int.ofNat

/-- The number that a text spells, with a plus sign or without. -/
def natural? (text : List Char) : Option Nat :=
  match text with
  | '+' :: digits => digits? digits
  | digits => digits? digits

def Form.read (text : String) : Form → Except Stop Value
  | .help | .flag => .ok .given
  | .text => .ok (.text text)
  | .path => if text = "" then .error .missingValue else .ok (.path (Path.ofString text))
  | .signed least most =>
      match integer? text.toList with
      | some number => if least ≤ number ∧ number ≤ most then .ok (.number number) else .error .badValue
      | none => .error .badValue
  | .unsigned most =>
      match natural? text.toList with
      | some number => if number ≤ most then .ok (.number number) else .error .badValue
      | none => .error .badValue

/-- A parameter: its long name, the letter for it, its value's form, the variable that stands in for it,
and whether it has to be there. -/
structure Parameter where
  name : String
  letter : Option Char
  form : Form
  fallback : Option String
  required : Bool
  deriving DecidableEq, Repr

abbrev Values : Type := List (String × Value)

namespace Values

def find? (name : String) : Values → Option Value
  | [] => none
  | (other, value) :: rest => if other = name then some value else find? name rest

def has (values : Values) (name : String) : Bool :=
  (values.find? name).isSome

def text? (values : Values) (name : String) : Option String :=
  match values.find? name with
  | some (.text text) => some text
  | _ => none

def path? (values : Values) (name : String) : Option Path :=
  match values.find? name with
  | some (.path path) => some path
  | _ => none

def number? (values : Values) (name : String) : Option Int :=
  match values.find? name with
  | some (.number number) => some number
  | _ => none

end Values

end EventFeed.Command
