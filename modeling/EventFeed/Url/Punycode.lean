/-!
# Punycode

How a label with characters outside ASCII is written in ASCII: its ASCII characters, then, for the others in
the order of their code points, the steps from one insertion to the next as numbers of base 36 with a varying
threshold.
-/

namespace EventFeed.Punycode

def digitChar (digit : Nat) : Char :=
  if digit < 26 then Char.ofNat (0x61 + digit) else Char.ofNat (0x30 + digit - 26)

def digitValue? (c : Char) : Option Nat :=
  if c.isLower then some (c.toNat - 0x61) else if c.isDigit then some (c.toNat - 0x30 + 26) else none

/-- The threshold of the digit at a place, the place counted in steps of 36. -/
def threshold (place bias : Nat) : Nat :=
  if place ≤ bias then 1 else if bias + 26 ≤ place then 26 else place - bias

theorem threshold_pos (place bias : Nat) : 1 ≤ threshold place bias := by
  unfold threshold
  split
  · omega
  · split <;> omega

/-- Divides by 35 as long as a number is large. The other number goes up by 36 each time. -/
def settle (number bias : Nat) : Nat :=
  if 455 < number then settle (number / 35) (bias + 36) else bias + 36 * number / (number + 38)
  termination_by number
  decreasing_by omega

/-- The bias behind a step that makes the text so long. -/
def adapt (step length : Nat) (first : Bool) : Nat :=
  let step := if first then step / 700 else step / 2
  settle (step + step / length) 0

/-! ## Writing -/

def digits (bias place number : Nat) : List Char :=
  if number < threshold place bias then [digitChar number]
  else
    digitChar (threshold place bias + (number - threshold place bias) % (36 - threshold place bias)) ::
      digits bias (place + 36) ((number - threshold place bias) / (36 - threshold place bias))
  termination_by number
  decreasing_by
    have positive := threshold_pos place bias
    have smaller := Nat.div_le_self (number - threshold place bias) (36 - threshold place bias)
    omega

/-- What has been written, and how far the writing has come. -/
structure Writing where
  text : List Char
  step : Nat
  bias : Nat
  length : Nat

def Writing.pass (basics point : Nat) (writing : Writing) (c : Char) : Writing :=
  if c.toNat < point then { writing with step := writing.step + 1 }
  else if c.toNat = point then
    { text := writing.text ++ digits writing.bias 36 writing.step
      step := 0
      bias := adapt writing.step (writing.length + 1) (writing.length = basics)
      length := writing.length + 1 }
  else writing

/-- Writes the insertions of code points, which are given in ascending order. -/
def writeFrom (label : List Char) (basics : Nat) (reached : Nat) : List Nat → Writing → Writing
  | [], writing => writing
  | point :: rest, writing =>
      let writing := { writing with step := writing.step + (point - reached) * (writing.length + 1) }
      let writing := label.foldl (Writing.pass basics point) writing
      writeFrom label basics (point + 1) rest { writing with step := writing.step + 1 }

def insertPoint (point : Nat) : List Nat → List Nat
  | [] => [point]
  | other :: rest =>
      if point < other then point :: other :: rest
      else if point = other then other :: rest
      else other :: insertPoint point rest

def encode (label : List Char) : List Char :=
  let basics := label.filter (·.toNat < 128)
  let points := ((label.filter (128 ≤ ·.toNat)).map Char.toNat).foldl (fun points point =>
    insertPoint point points) []
  (writeFrom label basics.length 128 points
    ⟨if basics = [] then [] else basics ++ ['-'], 0, 72, basics.length⟩).text

/-! ## Reading -/

/-- What has been read: the text, the code point and the index of the next insertion, and the number that
is being read with its place and weight. -/
structure Spelling where
  text : List Char
  point : Nat
  index : Nat
  bias : Nat
  start : Nat
  place : Nat
  weight : Nat

/-- Reads a digit. The digit below its threshold is the last of its number. -/
def Spelling.pass (spelling : Spelling) (c : Char) : Option Spelling := do
  let digit ← digitValue? c
  let index := spelling.index + digit * spelling.weight
  let least := threshold spelling.place spelling.bias
  if digit < least then
    let length := spelling.text.length + 1
    let point := spelling.point + index / length
    if point.isValidChar then
      return {
        text := spelling.text.insertIdx (index % length) (Char.ofNat point)
        point := point
        index := index % length + 1
        bias := adapt (index - spelling.start) length (spelling.start = 0)
        start := index % length + 1
        place := 36
        weight := 1 }
    else none
  else
    return { spelling with
      index := index, place := spelling.place + 36, weight := spelling.weight * (36 - least) }

def decode? (text : List Char) : Option (List Char) := do
  let digits := (text.reverse.takeWhile (· ≠ '-')).reverse
  let basics := text.take (text.length - digits.length - 1)
  let spelling ← digits.foldlM Spelling.pass ⟨basics, 128, 0, 72, 0, 36, 1⟩
  if spelling.place = 36 then some spelling.text else none

end EventFeed.Punycode
