/-!
# UTF-8

The bytes of a text, and the text of bytes. A decoder reads one byte at a time and is either between
characters or inside one; it never looks back, so all three readings below recurse on the byte list
itself. `decode?` refuses bytes that are not UTF-8, `decodeLossy` puts a replacement character for each
longest piece that cannot be continued, and `validPrefix` counts the bytes before the first such piece.
-/

namespace EventFeed.Utf8

def encodeChar (c : Char) : List UInt8 :=
  let v := c.toNat
  if v < 0x80 then [UInt8.ofNat v]
  else if v < 0x800 then [UInt8.ofNat (0xC0 + v / 64), UInt8.ofNat (0x80 + v % 64)]
  else if v < 0x10000 then
    [UInt8.ofNat (0xE0 + v / 4096), UInt8.ofNat (0x80 + v / 64 % 64), UInt8.ofNat (0x80 + v % 64)]
  else
    [UInt8.ofNat (0xF0 + v / 262144), UInt8.ofNat (0x80 + v / 4096 % 64),
      UInt8.ofNat (0x80 + v / 64 % 64), UInt8.ofNat (0x80 + v % 64)]

def encode (text : List Char) : List UInt8 :=
  text.flatMap encodeChar

def ofString (text : String) : List UInt8 :=
  encode text.toList

/-- Where a decoder stands between two bytes. -/
inductive State where
  /-- Between characters. -/
  | start
  /-- Inside a character: `owed + 1` bytes are missing, the next one lies in `low..high`, and `code` is
  the number that the bytes so far spell. -/
  | inside (owed : Nat) (low high : UInt8) (code : Nat)
  deriving DecidableEq, Repr

/-- What the first byte of a character says. -/
inductive Lead where
  | single (c : Char)
  | first (state : State)
  | never
  deriving DecidableEq, Repr

def lead (b : UInt8) : Lead :=
  if b < 0x80 then .single (Char.ofNat b.toNat)
  else if b < 0xC2 then .never
  else if b < 0xE0 then .first (.inside 0 0x80 0xBF (b.toNat - 0xC0))
  else if b = 0xE0 then .first (.inside 1 0xA0 0xBF 0)
  else if b = 0xED then .first (.inside 1 0x80 0x9F 13)
  else if b < 0xF0 then .first (.inside 1 0x80 0xBF (b.toNat - 0xE0))
  else if b = 0xF0 then .first (.inside 2 0x90 0xBF 0)
  else if b < 0xF4 then .first (.inside 2 0x80 0xBF (b.toNat - 0xF0))
  else if b = 0xF4 then .first (.inside 2 0x80 0x8F 4)
  else .never

/-- Reads bytes from a state on; none when they are not UTF-8 or end inside a character. -/
def decodeFrom : State → List UInt8 → Option (List Char)
  | .start, [] => some []
  | .inside .., [] => none
  | .start, b :: rest =>
      match lead b with
      | .single c => (decodeFrom .start rest).map (c :: ·)
      | .first state => decodeFrom state rest
      | .never => none
  | .inside owed low high code, b :: rest =>
      if low ≤ b ∧ b ≤ high then
        let code := code * 64 + (b.toNat - 0x80)
        match owed with
        | 0 => (decodeFrom .start rest).map (Char.ofNat code :: ·)
        | owed + 1 => decodeFrom (.inside owed 0x80 0xBF code) rest
      else none

def decode? (bytes : List UInt8) : Option (List Char) :=
  decodeFrom .start bytes

def replacement : Char := Char.ofNat 0xFFFD

/-- Reads bytes from a state on, with a replacement character for every piece that cannot be continued. -/
def decodeLossyFrom : State → List UInt8 → List Char
  | .start, [] => []
  | .inside .., [] => [replacement]
  | .start, b :: rest =>
      match lead b with
      | .single c => c :: decodeLossyFrom .start rest
      | .first state => decodeLossyFrom state rest
      | .never => replacement :: decodeLossyFrom .start rest
  | .inside owed low high code, b :: rest =>
      if low ≤ b ∧ b ≤ high then
        let code := code * 64 + (b.toNat - 0x80)
        match owed with
        | 0 => Char.ofNat code :: decodeLossyFrom .start rest
        | owed + 1 => decodeLossyFrom (.inside owed 0x80 0xBF code) rest
      else
        match lead b with
        | .single c => replacement :: c :: decodeLossyFrom .start rest
        | .first state => replacement :: decodeLossyFrom state rest
        | .never => replacement :: replacement :: decodeLossyFrom .start rest

def decodeLossy (bytes : List UInt8) : List Char :=
  decodeLossyFrom .start bytes

/-- Counts the bytes of whole characters: `done` of them stand before this point, and `begun` more belong
to the character that is being read. -/
def validPrefixFrom (done begun : Nat) : State → List UInt8 → Nat
  | _, [] => done
  | .start, b :: rest =>
      match lead b with
      | .single _ => validPrefixFrom (done + 1) 0 .start rest
      | .first state => validPrefixFrom done 1 state rest
      | .never => done
  | .inside owed low high code, b :: rest =>
      if low ≤ b ∧ b ≤ high then
        match owed with
        | 0 => validPrefixFrom (done + begun + 1) 0 .start rest
        | owed + 1 => validPrefixFrom done (begun + 1) (.inside owed 0x80 0xBF code) rest
      else done

/-- How many bytes stand before the first piece that is not UTF-8. -/
def validPrefix (bytes : List UInt8) : Nat :=
  validPrefixFrom 0 0 .start bytes

def toString? (bytes : List UInt8) : Option String :=
  (decode? bytes).map String.ofList

def toStringLossy (bytes : List UInt8) : String :=
  String.ofList (decodeLossy bytes)

end EventFeed.Utf8
