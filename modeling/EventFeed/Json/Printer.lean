import EventFeed.Json.Value

/-!
# Writing JSON

The compact form has no blanks. A string is written with the two characters that end it or begin an
escape, and all control characters, escaped; everything else stands for itself. The indented form puts
every item and member on a line of its own, two blanks further in than what holds it.
-/

namespace EventFeed.Json

def hexByte (n : Nat) : List Char :=
  [Nat.digitChar (n / 16), Nat.digitChar (n % 16)]

def escapeChar (c : Char) : List Char :=
  if c = '"' then ['\\', '"']
  else if c = '\\' then ['\\', '\\']
  else if c.toNat = 8 then ['\\', 'b']
  else if c.toNat = 9 then ['\\', 't']
  else if c.toNat = 10 then ['\\', 'n']
  else if c.toNat = 12 then ['\\', 'f']
  else if c.toNat = 13 then ['\\', 'r']
  else if c.toNat < 32 then ['\\', 'u', '0', '0'] ++ hexByte c.toNat
  else [c]

def quoted (text : String) : List Char :=
  '"' :: (text.toList.flatMap escapeChar ++ ['"'])

def integerChars (value : Int) : List Char :=
  if value < 0 then '-' :: Nat.toDigits 10 value.natAbs else Nat.toDigits 10 value.natAbs

def numberChars : Number → List Char
  | .integer value _ => integerChars value
  | .double value => Decimal.data value

mutual

def chars : Json → List Char
  | .null => ['n', 'u', 'l', 'l']
  | .bool true => ['t', 'r', 'u', 'e']
  | .bool false => ['f', 'a', 'l', 's', 'e']
  | .number value => numberChars value
  | .string text => quoted text
  | .array items => '[' :: (itemChars items ++ [']'])
  | .object members => '\x7b' :: (memberChars members ++ ['\x7d'])

def itemChars : List Json → List Char
  | [] => []
  | item :: [] => item.chars
  | item :: next :: rest => item.chars ++ ',' :: itemChars (next :: rest)

def memberChars : List (String × Json) → List Char
  | [] => []
  | (key, value) :: [] => quoted key ++ ':' :: value.chars
  | (key, value) :: next :: rest =>
      quoted key ++ ':' :: (value.chars ++ ',' :: memberChars (next :: rest))

end

def compact (document : Json) : String :=
  String.ofList document.chars

def newline (depth : Nat) : List Char :=
  '\n' :: List.replicate (2 * depth) ' '

mutual

def indentedChars (depth : Nat) : Json → List Char
  | .null => ['n', 'u', 'l', 'l']
  | .bool true => ['t', 'r', 'u', 'e']
  | .bool false => ['f', 'a', 'l', 's', 'e']
  | .number value => numberChars value
  | .string text => quoted text
  | .array [] => ['[', ']']
  | .array (item :: rest) =>
      '[' :: (indentedItems (depth + 1) (item :: rest) ++ newline depth ++ [']'])
  | .object [] => ['\x7b', '\x7d']
  | .object (member :: rest) =>
      '\x7b' :: (indentedMembers (depth + 1) (member :: rest) ++ newline depth ++ ['\x7d'])

def indentedItems (depth : Nat) : List Json → List Char
  | [] => []
  | item :: [] => newline depth ++ indentedChars depth item
  | item :: next :: rest =>
      newline depth ++ indentedChars depth item ++ ',' :: indentedItems depth (next :: rest)

def indentedMembers (depth : Nat) : List (String × Json) → List Char
  | [] => []
  | (key, value) :: [] => newline depth ++ quoted key ++ ':' :: ' ' :: indentedChars depth value
  | (key, value) :: next :: rest =>
      newline depth ++ quoted key ++ ':' :: ' ' ::
        (indentedChars depth value ++ ',' :: indentedMembers depth (next :: rest))

end

def indented (document : Json) : String :=
  String.ofList (document.indentedChars 0)

end EventFeed.Json
