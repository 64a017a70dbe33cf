import EventFeed.Json.Printer
import EventFeed.Text.Quoted

/-!
# What can be wrong with a document

A `Problem` is the cause and a `Position` the place, a line and a column counted in bytes. While a
document is read the place is the number of bytes that are left, so that readers need not know how much
stands before them. A problem of the data rather than of the notation lies where the reader is when it is
noticed.
-/

namespace EventFeed.Json

inductive Found where
  | null
  | bool (value : Bool)
  | number (value : Number)
  | string (value : String)
  | list
  | object

def Found.name : Found → String
  | .null => "null"
  | .bool true => "boolean `true`"
  | .bool false => "boolean `false`"
  | .number (.integer value _) => "integer `" ++ String.ofList (integerChars value) ++ "`"
  | .number (.double value) => "floating point `" ++ String.ofList (Decimal.data value) ++ "`"
  | .string value => "string " ++ Text.quotedInMessage value
  | .list => "sequence"
  | .object => "map"

def found : Json → Found
  | .null => .null
  | .bool value => .bool value
  | .number value => .number value
  | .string value => .string value
  | .array _ => .list
  | .object _ => .object

/-- A well-formed document that does not hold what it should. -/
inductive Mismatch where
  | wrongType (got : Found) (expected : String)
  | wrongValue (got : Found) (expected : String)
  | wrongLength (length : Nat) (expected : String)
  | missingField (name : String)
  | duplicateField (name : String)
  | unknownVariant (name : String) (known : List String)

def quotedNames (names : List String) : String :=
  ", ".intercalate (names.map fun name => "`" ++ name ++ "`")

def Mismatch.message : Mismatch → String
  | .wrongType got expected => "invalid type: " ++ got.name ++ ", expected " ++ expected
  | .wrongValue got expected => "invalid value: " ++ got.name ++ ", expected " ++ expected
  | .wrongLength length expected => "invalid length " ++ toString length ++ ", expected " ++ expected
  | .missingField name => "missing field `" ++ name ++ "`"
  | .duplicateField name => "duplicate field `" ++ name ++ "`"
  | .unknownVariant name known =>
      "unknown variant `" ++ name ++ "`, expected one of " ++ quotedNames known

inductive Problem where
  | endInList
  | endInObject
  | endInString
  | endInValue
  | expectedColon
  | expectedListEnd
  | expectedObjectEnd
  | expectedWord
  | expectedValue
  | invalidEscape
  | invalidNumber
  | numberOutOfRange
  | invalidCodePoint
  | controlCharacter
  | keyNotString
  | loneSurrogate
  | brokenSurrogatePair
  | trailingComma
  | trailingCharacters
  | nestingTooDeep
  | mismatch (cause : Mismatch)

def Problem.message : Problem → String
  | .endInList => "EOF while parsing a list"
  | .endInObject => "EOF while parsing an object"
  | .endInString => "EOF while parsing a string"
  | .endInValue => "EOF while parsing a value"
  | .expectedColon => "expected `:`"
  | .expectedListEnd => "expected `,` or `]`"
  | .expectedObjectEnd => "expected `,` or `\x7d`"
  | .expectedWord => "expected ident"
  | .expectedValue => "expected value"
  | .invalidEscape => "invalid escape"
  | .invalidNumber => "invalid number"
  | .numberOutOfRange => "number out of range"
  | .invalidCodePoint => "invalid unicode code point"
  | .controlCharacter => "control character (\\u0000-\\u001F) found while parsing a string"
  | .keyNotString => "key must be a string"
  | .loneSurrogate => "lone leading surrogate in hex escape"
  | .brokenSurrogatePair => "unexpected end of hex escape"
  | .trailingComma => "trailing comma"
  | .trailingCharacters => "trailing characters"
  | .nestingTooDeep => "recursion limit exceeded"
  | .mismatch cause => cause.message

/-- A line, counted from one, and the number of bytes on it up to the place. -/
structure Position where
  line : Nat
  column : Nat
  deriving DecidableEq, Repr

/-- The position after some bytes: every line feed begins a line. -/
def Position.after : List UInt8 → Position → Position
  | [], reached => reached
  | b :: rest, reached =>
      if b = 0x0A then after rest ⟨reached.line + 1, 0⟩
      else after rest ⟨reached.line, reached.column + 1⟩

inductive Place where
  /-- So many bytes are left. -/
  | left (count : Nat)
  /-- Known, in a document of its own. -/
  | known (position : Position)

structure Fault where
  problem : Problem
  place : Place

/-- A fault at the place that the reader has reached. -/
def Fault.here (problem : Problem) (rest : List UInt8) : Fault :=
  ⟨problem, .left rest.length⟩

/-- A fault at the byte that the reader looks at. -/
def Fault.ahead (problem : Problem) (rest : List UInt8) : Fault :=
  ⟨problem, .left (rest.length - 1)⟩

/-- A refused document: the problem and, for one read from text, its position. -/
structure Error where
  problem : Problem
  position : Option Position

def Fault.position (fault : Fault) (document : List UInt8) : Position :=
  match fault.place with
  | .left count => Position.after (document.take (document.length - count)) ⟨1, 0⟩
  | .known position => position

def Fault.toError (fault : Fault) (document : List UInt8) : Error :=
  ⟨fault.problem, some (fault.position document)⟩

def Error.message (error : Error) : String :=
  match error.position with
  | none => error.problem.message
  | some position =>
      error.problem.message ++ " at line " ++ toString position.line ++ " column " ++
        toString position.column

end EventFeed.Json
