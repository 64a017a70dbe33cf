import EventFeed.Decimal.Binary64

/-!
# The shortest decimal that reads back

A double is written with the fewest decimal digits whose value still rounds to it, and of those with the
digits nearest to it. The digits and the place of the first one are the result of `shortest`; `plain` and
`data` turn them into text.
-/

namespace EventFeed.Decimal

/-- A positive decimal: its digits, most significant first and without zeros at the end, and the power of
ten of the first one. -/
structure Digits where
  digits : List Char
  exponent : Int
  deriving DecidableEq, Repr

/-- The power of ten of the first digit of `num / den`. -/
def leadingExponent (num den : Nat) : Int :=
  if num ≥ den then (Binary64.digitCount (num / den) : Int) - 1
  else -(Binary64.digitCount ((den + num - 1) / num - 1) : Int)

def trimZeros (digits : List Char) : List Char :=
  (digits.reverse.dropWhile (· == '0')).reverse

/-- The decimal `n * 10 ^ unit`. -/
def Digits.ofNat (n : Nat) (unit : Int) : Digits :=
  let text := Nat.toDigits 10 n
  ⟨trimZeros text, unit + (text.length : Int) - 1⟩

/-- The numbers that round to a given one: from `low / den` to `high / den` around `mid / den`, ends
included when `closed`. -/
structure Neighbourhood where
  low : Nat
  mid : Nat
  high : Nat
  den : Nat
  closed : Bool

/-- The neighbourhood of a nonzero double. Below a power of two the numbers lie twice as dense. -/
def neighbourhood (x : Binary64) : Neighbourhood :=
  let m := x.significand
  let lower := if m = Binary64.leadingBit ∧ x.scale > -1074 then 4 * m - 1 else 4 * m - 2
  let power := x.scale - 2
  let factor := if power ≥ 0 then 1 <<< power.toNat else 1
  let den := if power ≥ 0 then 1 else 1 <<< (-power).toNat
  ⟨lower * factor, 4 * m * factor, (4 * m + 2) * factor, den, m % 2 = 0⟩

def Neighbourhood.holds (around : Neighbourhood) (num scale : Nat) : Bool :=
  let value := num * around.den
  if around.closed then around.low * scale ≤ value && value ≤ around.high * scale
  else around.low * scale < value && value < around.high * scale

/-- The point of the grid of step `10 ^ unit` that lies in the neighbourhood, the nearer one of two. -/
def Neighbourhood.onGrid (around : Neighbourhood) (unit : Int) : Option Nat :=
  let step := if unit ≥ 0 then Nat.pow 10 unit.toNat else 1
  let scale := if unit ≥ 0 then 1 else Nat.pow 10 (-unit).toNat
  let below := around.mid * scale / (around.den * step)
  let above := below + 1
  let fitsBelow := below ≠ 0 && around.holds (below * step) scale
  let fitsAbove := around.holds (above * step) scale
  if fitsBelow && fitsAbove then
    let toBelow := around.mid * scale - below * step * around.den
    let toAbove := above * step * around.den - around.mid * scale
    if toBelow < toAbove then some below
    else if toAbove < toBelow then some above
    else some (if below % 2 = 0 then below else above)
  else if fitsBelow then some below
  else if fitsAbove then some above
  else none

/-- The first grid with a point in the neighbourhood, from `first` on towards finer ones. -/
def Neighbourhood.search (around : Neighbourhood) (exponent : Int) : Nat → Nat → Digits
  | _, 0 => Digits.ofNat (around.mid / around.den) 0
  | count, fuel + 1 =>
      let unit := exponent - (count : Int) + 1
      match around.onGrid unit with
      | some n => Digits.ofNat n unit
      | none => around.search exponent (count + 1) fuel

/-- The fewest digits that read back as a nonzero double. Seventeen always suffice. -/
def shortest (x : Binary64) : Digits :=
  let around := neighbourhood x
  around.search (leadingExponent around.mid around.den) 1 18

def zeros (n : Nat) : List Char :=
  List.replicate n '0'

def Digits.plainParts (d : Digits) : List Char × List Char :=
  if d.exponent < 0 then (['0'], zeros (-d.exponent - 1).toNat ++ d.digits)
  else
    let whole := d.exponent.toNat + 1
    (d.digits.take whole ++ zeros (whole - d.digits.length), d.digits.drop whole)

/-- A number without an exponent and without a point where it is whole. -/
def plain (x : Binary64) : String :=
  let sign := if x.negative then ['-'] else []
  if x.pattern = 0 then String.ofList (sign ++ ['0'])
  else
    let (whole, fraction) := (shortest x).plainParts
    String.ofList (sign ++ whole ++ if fraction.isEmpty then [] else '.' :: fraction)

/-- A decimal with its exponent behind it, the sign of the exponent written. -/
def Digits.scientific (d : Digits) : List Char :=
  let mantissa := match d.digits with
    | first :: second :: rest => first :: '.' :: second :: rest
    | short => short
  let power := if d.exponent < 0 then '-' :: Nat.toDigits 10 (-d.exponent).toNat
    else '+' :: Nat.toDigits 10 d.exponent.toNat
  mantissa ++ 'e' :: power

/-- A number as data formats write it: with a point and at least one digit behind it while the first
digit stands within `10 ^ -5` and `10 ^ 15`, else with an exponent. -/
def data (x : Binary64) : List Char :=
  let sign := if x.negative then ['-'] else []
  if x.pattern = 0 then sign ++ ['0', '.', '0']
  else
    let d := shortest x
    if -5 ≤ d.exponent ∧ d.exponent ≤ 15 then
      let (whole, fraction) := d.plainParts
      sign ++ whole ++ '.' :: (if fraction.isEmpty then ['0'] else fraction)
    else sign ++ d.scientific

end EventFeed.Decimal
