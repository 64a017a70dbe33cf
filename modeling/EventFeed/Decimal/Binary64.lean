/-!
# Finite double-precision numbers

A `Binary64` is one of the finite numbers of the 64-bit binary floating-point format. Its `pattern` is
the format's bit pattern without the sign, so magnitudes are ordered as patterns are, and the number
stands for `significand * 2 ^ scale`. Every arithmetic operation is exact rational arithmetic on natural numbers
followed by one rounding to the nearest number, a tie going to the even pattern.
-/

namespace EventFeed

/-- The bit in front of the 52 bits that the pattern of a number holds of its digits. -/
def Binary64.leadingBit : Nat := 4503599627370496

/-- A finite double: its sign, and the bits of its magnitude. -/
structure Binary64 where
  negative : Bool
  pattern : Nat
  finite : pattern < 2047 * Binary64.leadingBit
  deriving DecidableEq

namespace Binary64

instance : Repr Binary64 := ⟨fun x _ => repr (x.negative, x.pattern)⟩

def zero (negative : Bool) : Binary64 := ⟨negative, 0, by decide⟩

instance : Inhabited Binary64 := ⟨zero false⟩

/-- The integer whose product with a power of two is the magnitude. -/
def significand (x : Binary64) : Nat :=
  if x.pattern / leadingBit = 0 then x.pattern else leadingBit + x.pattern % leadingBit

def scale (x : Binary64) : Int :=
  if x.pattern / leadingBit = 0 then -1074 else (x.pattern / leadingBit : Nat) - 1075

def ratio (x : Binary64) : Nat × Nat :=
  if x.scale ≥ 0 then (x.significand <<< x.scale.toNat, 1)
  else (x.significand, 1 <<< (-x.scale).toNat)

/-- The quotient rounded to the nearest integer, a tie to the even one. -/
def roundDiv (num den : Nat) : Nat :=
  let q := num / den
  let twice := 2 * (num % den)
  if twice < den then q
  else if den < twice then q + 1
  else q + q % 2

/-- The exponent of the unit in which `num / den` has 53 binary digits, or the least exponent of the
format when that is larger. -/
def unitOf (num den : Nat) : Int :=
  let guess : Int := (num.log2 : Int) - (den.log2 : Int) - 52
  let exact : Int :=
    if guess ≥ 0 then if num < den <<< (52 + guess.toNat) then guess - 1 else guess
    else if num <<< (-guess).toNat < den * leadingBit then guess - 1 else guess
  max exact (-1074)

/-- The number nearest to `num / den`, for a positive denominator; none when it would be too large. -/
def ofRatio (negative : Bool) (num den : Nat) : Option Binary64 :=
  if num = 0 then some (zero negative)
  else
    let unit := unitOf num den
    let rounded :=
      if unit ≥ 0 then roundDiv num (den <<< unit.toNat)
      else roundDiv (num <<< (-unit).toNat) den
    let pattern := (unit + 1074).toNat * leadingBit + rounded
    if h : pattern < 2047 * leadingBit then some ⟨negative, pattern, h⟩ else none

theorem ofRatio_zero (negative : Bool) (den : Nat) : ofRatio negative 0 den = some (zero negative) :=
  if_pos rfl

/-- How many decimal digits a positive number has; one for zero. -/
def digitCount (n : Nat) : Nat :=
  (Nat.toDigits 10 n).length

/-- The number nearest to a natural number, zero in place of one that is too large. -/
def ofNat (n : Nat) : Binary64 :=
  (ofRatio false n 1).getD default

/-- The rounded quotient of two magnitudes, zero in place of one that is too large. -/
def div (x y : Binary64) : Binary64 :=
  let (a, b) := x.ratio
  let (c, d) := y.ratio
  (ofRatio false (a * d) (b * c)).getD default

/-- The rounded product of two magnitudes; none when it would be too large. -/
def mul? (x y : Binary64) : Option Binary64 :=
  let (a, b) := x.ratio
  let (c, d) := y.ratio
  ofRatio false (a * c) (b * d)

/-- The rounded sum of two magnitudes, zero in place of one that is too large. -/
def add (x y : Binary64) : Binary64 :=
  let (a, b) := x.ratio
  let (c, d) := y.ratio
  (ofRatio false (a * d + c * b) (b * d)).getD default

/-! ### Decimals

A decimal is not rounded once: its digits are, the power of ten is, and their product or quotient is. So the last
digit may differ from that of the nearest number, and a decimal just above the largest number may be too large.
-/

/-- The exponent of the largest power of ten that the format holds. -/
def maxPower : Nat := 308

def tenTo (exponent : Nat) : Binary64 :=
  ofNat (Nat.pow 10 exponent)

/-- Divides by the largest power of ten in so many rounds; zero is left as it is. -/
def lower : Nat → Binary64 → Binary64
  | 0, x => x
  | rounds + 1, x => if x.pattern = 0 then x else lower rounds (x.div (tenTo maxPower))

/-- The product of a magnitude and a power of ten; none when it would be too large. Beyond the largest power a
magnitude is divided in rounds. -/
def scaleByTen (x : Binary64) (exponent : Int) : Option Binary64 :=
  if 0 ≤ exponent then
    if exponent ≤ maxPower then x.mul? (tenTo exponent.toNat)
    else if x.pattern = 0 then some x
    else none
  else
    let places := (-exponent).toNat
    let rounds := (places - 1) / maxPower
    some ((x.lower rounds).div (tenTo (places - rounds * maxPower)))

theorem zero_div (x : Binary64) : (zero false).div x = zero false := by
  unfold div
  dsimp only
  rw [show (zero false).ratio.1 = 0 from rfl, Nat.zero_mul, ofRatio_zero]
  rfl

theorem zero_mul? (x : Binary64) : (zero false).mul? x = some (zero false) := by
  unfold mul?
  dsimp only
  rw [show (zero false).ratio.1 = 0 from rfl, Nat.zero_mul, ofRatio_zero]

theorem lower_zero (rounds : Nat) : (zero false).lower rounds = zero false := by
  cases rounds <;> rfl

theorem scaleByTen_zero (exponent : Int) : (zero false).scaleByTen exponent = some (zero false) := by
  unfold scaleByTen
  split
  · rw [zero_mul?]
    split <;> rfl
  · dsimp only
    rw [lower_zero, zero_div]

/-- The number that is read from a decimal `digits * 10 ^ exponent`; none when it would be too large. -/
def ofDecimal (negative : Bool) (digits : Nat) (exponent : Int) : Option Binary64 :=
  ((ofNat digits).scaleByTen exponent).map fun x => { x with negative := negative }

/-- No digits but zeros come to zero, whatever the exponent. -/
theorem ofDecimal_zero (negative : Bool) (exponent : Int) :
    ofDecimal negative 0 exponent = some (zero negative) := by
  rw [ofDecimal, show ofNat 0 = zero false from rfl, scaleByTen_zero]
  rfl

def larger (x y : Binary64) : Binary64 :=
  if x.pattern < y.pattern then y else x

/-- The magnitude rounded to an integer, a half going away from zero. -/
def roundToNat (x : Binary64) : Nat :=
  let (num, den) := x.ratio
  (2 * num + den) / (2 * den)

/-- The magnitude in tenths, a half going to the even tenth. -/
def tenths (x : Binary64) : Nat :=
  let (num, den) := x.ratio
  roundDiv (10 * num) den

end Binary64

end EventFeed
