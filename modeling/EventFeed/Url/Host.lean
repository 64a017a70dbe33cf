import EventFeed.Url.Domain

/-!
# Hosts

The host of a URL is a name or an address. A text whose last part is a number is an IPv4 address or
nothing: its parts may be decimal, octal or hexadecimal, and the last one fills all bytes that the others
leave. A text in brackets is an IPv6 address, eight groups with one run of zeros perhaps left out. All
else is a name.
-/

namespace EventFeed

inductive UrlFault where
  | emptyHost
  | badName
  | badPort
  | badIpv4
  | badIpv6
  deriving DecidableEq, Repr

def UrlFault.message : UrlFault → String
  | .emptyHost => "empty host"
  | .badName => "invalid international domain name"
  | .badPort => "invalid port number"
  | .badIpv4 => "invalid IPv4 address"
  | .badIpv6 => "invalid IPv6 address"

inductive Host where
  | name (text : String)
  | ipv4 (address : Nat)
  | ipv6 (groups : List Nat)
  deriving DecidableEq, Repr

namespace Host

/-! ## IPv4 -/

def spelled (base : Nat) (digits : List Char) : Option Nat :=
  digits.foldl (fun total c =>
    match total, Percent.hexValue? c with
    | some n, some d => if d < base then some (n * base + d) else none
    | _, _ => none) (some 0)

def ipv4Part? : List Char → Option Nat
  | [] => none
  | '0' :: 'x' :: digits => spelled 16 digits
  | '0' :: 'X' :: digits => spelled 16 digits
  | '0' :: digit :: digits => spelled 8 (digit :: digits)
  | digits => spelled 10 digits

/-- The parts of a text between points, less an empty one at the end. -/
def dotted (text : List Char) : List (List Char) :=
  let parts := Form.pieces '.' text
  if parts.getLast? = some [] then parts.dropLast else parts

/-- Whether a text can be nothing but an IPv4 address. -/
def endsInNumber (text : List Char) : Bool :=
  match (dotted text).getLast? with
  | none => false
  | some [] => false
  | some last => last.all Char.isDigit || (ipv4Part? last).isSome

/-- The address of four bytes or less, the last number filling what is left. -/
def ipv4OfNumbers? (numbers : List Nat) : Option Nat :=
  match numbers.getLast? with
  | none => none
  | some last =>
      let bytes := numbers.dropLast
      if numbers.length ≤ 4 ∧ bytes.all (· < 256) = true ∧ last < 1 <<< (8 * (4 - bytes.length)) then
        some (bytes.foldl (fun total byte => total * 256 + byte) 0 <<< (8 * (4 - bytes.length)) + last)
      else none

def ipv4? (text : List Char) : Option Nat :=
  ((dotted text).mapM ipv4Part?).bind ipv4OfNumbers?

def ipv4Text (address : Nat) : String :=
  ".".intercalate ([16777216, 65536, 256, 1].map fun unit => toString (address / unit % 256))

/-! ## IPv6 -/

/-- A number below 256 in decimal digits without needless zeros. -/
def byte? (digits : List Char) : Option Nat :=
  if digits = [] ∨ digits.all Char.isDigit = false ∨ (1 < digits.length ∧ digits.head? = some '0') then none
  else (spelled 10 digits).bind fun n => if n < 256 then some n else none

/-- The two groups that an IPv4 address at the end stands for. -/
def ipv4Groups? (text : List Char) : Option (List Nat) :=
  match (Form.pieces '.' text).mapM byte? with
  | some [a, b, c, d] => some [a * 256 + b, c * 256 + d]
  | _ => none

def group? (digits : List Char) : Option Nat :=
  if digits = [] ∨ 4 < digits.length then none else spelled 16 digits

/-- The groups of the fields on one side of the gap. Only the very last field may be an IPv4 address. -/
def groups? (atEnd : Bool) : List (List Char) → Option (List Nat)
  | [] => some []
  | field :: [] =>
      if atEnd && field.contains '.' then ipv4Groups? field else (group? field).map fun group => [group]
  | field :: next :: rest => do
      let group ← group? field
      let others ← groups? atEnd (next :: rest)
      return group :: others

/-- Drops the empty field that a gap at the end of the address adds to its own; none when an end is empty
without a gap. -/
def trimEnd? : List (List Char) → Option (List (List Char))
  | [] :: [] :: rest => some ([] :: rest)
  | [] :: _ => none
  | fields => some fields

def ipv6? (text : List Char) : Option (List Nat) := do
  if text.length < 2 then none
  let fields ← trimEnd? (Form.pieces ':' text)
  let fields ← (trimEnd? fields.reverse).map List.reverse
  let before := fields.takeWhile (· ≠ [])
  match fields.dropWhile (· ≠ []) with
  | [] =>
      let groups ← groups? true before
      if groups.length = 8 then some groups else none
  | _ :: after =>
      let left ← groups? false before
      let right ← groups? true after
      if left.length + right.length < 8 then
        some (left ++ List.replicate (8 - left.length - right.length) 0 ++ right)
      else none

def zeroRun (groups : List Nat) : Nat :=
  (groups.takeWhile (· = 0)).length

/-- The place and the length of the first longest run of zeros. -/
def longestRun : List Nat → Nat × Nat
  | [] => (0, 0)
  | group :: rest =>
      let here := zeroRun (group :: rest)
      let (place, length) := longestRun rest
      if length ≤ here then (0, here) else (place + 1, length)

def groupText (group : Nat) : String :=
  String.ofList (Nat.toDigits 16 group)

/-- An address with its longest run of two or more zeros left out. -/
def ipv6Text (groups : List Nat) : String :=
  let (place, length) := longestRun groups
  let shown (groups : List Nat) : String := ":".intercalate (groups.map groupText)
  if length < 2 then shown groups
  else shown (groups.take place) ++ "::" ++ shown (groups.drop (place + length))

/-! ## All hosts -/

def ofText (text : List Char) : Except UrlFault Host :=
  match text with
  | '[' :: rest =>
      if rest.getLast? = some ']' then
        match ipv6? rest.dropLast with
        | some groups => .ok (.ipv6 groups)
        | none => .error .badIpv6
      else .error .badIpv6
  | _ =>
      match Domain.ofEscaped? text with
      | none => .error .badName
      | some [] => .error .emptyHost
      | some domain =>
          if endsInNumber domain then
            match ipv4? domain with
            | some address => .ok (.ipv4 address)
            | none => .error .badIpv4
          else .ok (.name (String.ofList domain))

def text : Host → String
  | .name text => text
  | .ipv4 address => ipv4Text address
  | .ipv6 groups => "[" ++ ipv6Text groups ++ "]"

end Host

end EventFeed
