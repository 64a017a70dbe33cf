import EventFeed.Json.Fault
import EventFeed.Text.Utf8

/-!
# Words, numbers and strings of a document

Readers of the pieces that hold no other value. Each takes the bytes that are left and gives back what
it read with the bytes that are left then, or the fault. `fuel` bounds the bytes of a string; the bytes
of the whole document are always enough.
-/

namespace EventFeed.Json

abbrev Read (α : Type) : Type := Except Fault (α × List UInt8)

def isBlank (b : UInt8) : Bool :=
  b = 0x20 || b = 0x09 || b = 0x0A || b = 0x0D

def skipBlanks : List UInt8 → List UInt8
  | [] => []
  | b :: rest => if isBlank b then skipBlanks rest else b :: rest

def readWord : List UInt8 → List UInt8 → Except Fault (List UInt8)
  | [], input => .ok input
  | _ :: _, [] => .error (.here .endInValue [])
  | w :: word, b :: rest =>
      if b = w then readWord word rest else .error (.here .expectedWord rest)

def nullTail : List UInt8 := [0x75, 0x6C, 0x6C]

def trueTail : List UInt8 := [0x72, 0x75, 0x65]

def falseTail : List UInt8 := [0x61, 0x6C, 0x73, 0x65]

/-! ## Numbers -/

def isDigit (b : UInt8) : Bool :=
  0x30 ≤ b && b ≤ 0x39

def digitValue (b : UInt8) : Nat :=
  b.toNat - 0x30

/-- Digits in a 64-bit word, as many as it can hold: what they come to, how many there are, and how many more had
to be dropped. -/
structure Significand where
  value : Nat
  kept : Nat
  dropped : Nat

/-- Once a digit was dropped, the others are, too. -/
def Significand.add (digits : Significand) (digit : Nat) : Significand :=
  if digits.dropped = 0 ∧ digits.value * 10 + digit < UInt64.size then
    ⟨digits.value * 10 + digit, digits.kept + 1, 0⟩
  else { digits with dropped := digits.dropped + 1 }

def readDigits (digits : Significand) : List UInt8 → Significand × List UInt8
  | [] => (digits, [])
  | b :: rest =>
      if isDigit b then readDigits (digits.add (digitValue b)) rest
      else (digits, b :: rest)

/-- The largest exponent that is told apart from larger ones. -/
def largestPower : Nat := 2147483647

/-- Reads digits behind an exponent. Beyond the largest power the number is refused at once when
`refuse` holds, and else the power stays just above it. -/
def readPower (refuse : Bool) (value : Nat) : List UInt8 → Read Nat
  | [] => .ok (value, [])
  | b :: rest =>
      if isDigit b then
        let next := value * 10 + digitValue b
        if next ≤ largestPower then readPower refuse next rest
        else if refuse then .error (.here .numberOutOfRange rest)
        else readPower refuse (largestPower + 1) rest
      else .ok (value, b :: rest)

def doubleOf (negative : Bool) (digits : Nat) (exponent : Int) (rest : List UInt8) : Read Number :=
  match Binary64.ofDecimal negative digits exponent with
  | some value => .ok (.double value, rest)
  | none => .error (.here .numberOutOfRange rest)

def readSign : List UInt8 → Bool × List UInt8
  | b :: rest => if b = 0x2B then (true, rest) else if b = 0x2D then (false, rest) else (true, b :: rest)
  | [] => (true, [])

def readExponent (negative : Bool) (digits : Nat) (scale : Int) (input : List UInt8) : Read Number :=
  let (positive, signed) := readSign input
  match signed with
  | [] => .error (.here .endInValue [])
  | b :: rest =>
      if isDigit b then
        match readPower (positive && digits ≠ 0) (digitValue b) rest with
        | .error fault => .error fault
        | .ok (power, rest) =>
            doubleOf negative digits (if positive then scale + power else scale - power) rest
      else .error (.here .invalidNumber rest)

/-- Reads what stands behind the point. Digits that were dropped before it count in the exponent, and those that
are dropped behind it do not. -/
def readFraction (negative : Bool) (whole dropped : Nat) (input : List UInt8) : Read Number :=
  let (digits, rest) := readDigits ⟨whole, 0, 0⟩ input
  let scale := (dropped : Int) - digits.kept
  if digits.kept + digits.dropped = 0 then
    .error (.ahead (if rest.isEmpty then .endInValue else .invalidNumber) rest)
  else
    match rest with
    | b :: after =>
        if b = 0x65 || b = 0x45 then readExponent negative digits.value scale after
        else doubleOf negative digits.value scale rest
    | [] => doubleOf negative digits.value scale []

/-- The number of an optional minus and an integer. Minus zero, and what no 64-bit integer can hold, is
a double. -/
def integerNumber (negative : Bool) (value dropped : Nat) (rest : List UInt8) : Read Number :=
  if negative then
    if small : dropped = 0 ∧ 0 < value ∧ value ≤ 9223372036854775808 then
      .ok (.integer (-(value : Int)) ⟨by omega, by omega⟩, rest)
    else doubleOf true value dropped rest
  else if small : dropped = 0 ∧ value < 18446744073709551616 then
    .ok (.integer value (Number.inRange_ofNat small.2), rest)
  else doubleOf false value dropped rest

def readNumberTail (negative : Bool) (value dropped : Nat) : List UInt8 → Read Number
  | [] => integerNumber negative value dropped []
  | b :: rest =>
      if b = 0x2E then readFraction negative value dropped rest
      else if b = 0x65 || b = 0x45 then readExponent negative value dropped rest
      else integerNumber negative value dropped (b :: rest)

def startsWithDigit : List UInt8 → Bool
  | b :: _ => isDigit b
  | [] => false

/-- Reads a number behind its optional minus. A zero in front stands alone. -/
def readNumber (negative : Bool) : List UInt8 → Read Number
  | [] => .error (.here .endInValue [])
  | b :: rest =>
      if b = 0x30 then
        if startsWithDigit rest then .error (.ahead .invalidNumber rest)
        else readNumberTail negative 0 0 rest
      else if isDigit b then
        let (digits, rest) := readDigits ⟨digitValue b, 1, 0⟩ rest
        readNumberTail negative digits.value digits.dropped rest
      else .error (.here .invalidNumber rest)

/-! ## Strings -/

def hexValue? (b : UInt8) : Option Nat :=
  if isDigit b then some (digitValue b)
  else if 0x61 ≤ b && b ≤ 0x66 then some (b.toNat - 87)
  else if 0x41 ≤ b && b ≤ 0x46 then some (b.toNat - 55)
  else none

def hexNumber? (a b c d : UInt8) : Option Nat := do
  let a ← hexValue? a
  let b ← hexValue? b
  let c ← hexValue? c
  let d ← hexValue? d
  return ((a * 16 + b) * 16 + c) * 16 + d

def readHex : List UInt8 → Read Nat
  | a :: b :: c :: d :: rest =>
      match hexNumber? a b c d with
      | some value => .ok (value, rest)
      | none => .error (.here .invalidEscape rest)
  | _ => .error (.here .endInString [])

def isLeadingSurrogate (n : Nat) : Bool := 0xD800 ≤ n && n ≤ 0xDBFF

def isTrailingSurrogate (n : Nat) : Bool := 0xDC00 ≤ n && n ≤ 0xDFFF

/-- Reads the second half of a character that is written as two escapes. -/
def readPair (leading : Nat) : List UInt8 → Read Char
  | [] => .error (.here .endInString [])
  | backslash :: rest =>
      if backslash = 0x5C then
        match rest with
        | [] => .error (.here .endInString [])
        | letter :: rest =>
            if letter = 0x75 then
              match readHex rest with
              | .error fault => .error fault
              | .ok (trailing, rest) =>
                  if isTrailingSurrogate trailing then
                    .ok (Char.ofNat ((leading - 0xD800) * 1024 + (trailing - 0xDC00) + 0x10000), rest)
                  else .error (.here .loneSurrogate rest)
            else .error (.here .brokenSurrogatePair rest)
      else .error (.here .brokenSurrogatePair rest)

/-- Reads the number of a character, and of a second half where the first one asks for it. -/
def readCodePoint (input : List UInt8) : Read Char :=
  match readHex input with
  | .error fault => .error fault
  | .ok (code, rest) =>
      if isTrailingSurrogate code then .error (.here .loneSurrogate rest)
      else if isLeadingSurrogate code then readPair code rest
      else .ok (Char.ofNat code, rest)

def escapedChar? (letter : UInt8) : Option Char :=
  if letter = 0x22 then some '"'
  else if letter = 0x5C then some '\\'
  else if letter = 0x2F then some '/'
  else if letter = 0x62 then some (Char.ofNat 8)
  else if letter = 0x66 then some (Char.ofNat 12)
  else if letter = 0x6E then some (Char.ofNat 10)
  else if letter = 0x72 then some (Char.ofNat 13)
  else if letter = 0x74 then some (Char.ofNat 9)
  else none

def readEscape : List UInt8 → Read Char
  | [] => .error (.here .endInString [])
  | letter :: rest =>
      if letter = 0x75 then readCodePoint rest
      else
        match escapedChar? letter with
        | some c => .ok (c, rest)
        | none => .error (.here .invalidEscape rest)

/-- Reads up to the closing quote: the bytes between the quotes with escapes replaced. `seen` holds the
bytes read so far, last one first. -/
def scanString : Nat → List UInt8 → List UInt8 → Read (List UInt8)
  | 0, _, rest => .error (.here .endInString rest)
  | _ + 1, _, [] => .error (.here .endInString [])
  | fuel + 1, seen, b :: rest =>
      if b = 0x22 then .ok (seen.reverse, rest)
      else if b = 0x5C then
        match readEscape rest with
        | .error fault => .error fault
        | .ok (c, rest) => scanString fuel ((Utf8.encodeChar c).reverse ++ seen) rest
      else if b < 0x20 then .error (.here .controlCharacter rest)
      else scanString fuel (b :: seen) rest

/-- Reads a string behind its opening quote. Bytes that are not UTF-8 are refused once the closing quote is
found. The fault lies as many bytes before the end of the string as the text, its escapes replaced, goes on
from its first ill-formed byte. -/
def readString (fuel : Nat) (input : List UInt8) : Read String :=
  match scanString fuel [] input with
  | .error fault => .error fault
  | .ok (bytes, rest) =>
      match Utf8.toString? bytes with
      | some text => .ok (text, rest)
      | none =>
          .error ⟨.invalidCodePoint, .left (rest.length + (bytes.length - Utf8.validPrefix bytes))⟩

end EventFeed.Json
