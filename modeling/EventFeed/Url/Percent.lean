import EventFeed.Text.Utf8

/-!
# Percent encoding

A byte that may not stand in some part of a URL is written as a percent sign and two upper-case digits of
base sixteen. Which characters stand for themselves differs from part to part; no part lets through
controls, blanks or anything beyond ASCII.
-/

namespace EventFeed.Percent

def escapeByte (b : UInt8) : List Char :=
  ['%', (Nat.digitChar (b.toNat / 16)).toUpper, (Nat.digitChar (b.toNat % 16)).toUpper]

def escapeChar (keeps : Char → Bool) (c : Char) : List Char :=
  if keeps c then [c] else (Utf8.encodeChar c).flatMap escapeByte

def escape (keeps : Char → Bool) (text : List Char) : List Char :=
  text.flatMap (escapeChar keeps)

def isGraphic (c : Char) : Bool :=
  0x21 ≤ c.toNat && c.toNat ≤ 0x7E

def keepsFragment (c : Char) : Bool :=
  isGraphic c && c ∉ ['"', '<', '>', Char.ofNat 0x60]

def keepsPath (c : Char) : Bool :=
  keepsFragment c && c ∉ ['#', '?', '\x7b', '\x7d']

def keepsSegment (c : Char) : Bool :=
  keepsPath c && c ∉ ['/', '%', '\\']

def keepsUser (c : Char) : Bool :=
  keepsPath c && c ∉ ['/', ':', ';', '=', '@', '[', '\\', ']', '^', '|']

def keepsQuery (c : Char) : Bool :=
  isGraphic c && c ∉ ['"', '#', '<', '>', '\'']

def keepsForm (c : Char) : Bool :=
  c.isAlphanum || ['*', '-', '.', '_'].contains c

def hexValue? (c : Char) : Option Nat :=
  let v := c.toNat
  if 0x30 ≤ v ∧ v ≤ 0x39 then some (v - 0x30)
  else if 0x41 ≤ v ∧ v ≤ 0x46 then some (v - 0x41 + 10)
  else if 0x61 ≤ v ∧ v ≤ 0x66 then some (v - 0x61 + 10)
  else none

/-- The bytes that a text with escapes stands for. A percent sign without two digits behind it stands for
itself. -/
def decode : List Char → List UInt8
  | '%' :: high :: low :: rest =>
      match hexValue? high, hexValue? low with
      | some h, some l => UInt8.ofNat (h * 16 + l) :: decode rest
      | _, _ => 0x25 :: decode (high :: low :: rest)
  | c :: rest => Utf8.encodeChar c ++ decode rest
  | [] => []

end EventFeed.Percent
