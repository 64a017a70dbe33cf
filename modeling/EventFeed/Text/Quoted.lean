import EventFeed.Unicode.Invisible

/-!
# Texts inside messages

A text that a message quotes stands between double quotes. Quotes, backslashes and the usual line
characters are written as two characters, and a character that leaves no mark by its number.
-/

namespace EventFeed.Text

def messageChar (c : Char) : List Char :=
  if c = '"' then ['\\', '"']
  else if c = '\\' then ['\\', '\\']
  else if c.toNat = 0 then ['\\', '0']
  else if c.toNat = 9 then ['\\', 't']
  else if c.toNat = 10 then ['\\', 'n']
  else if c.toNat = 13 then ['\\', 'r']
  else if Unicode.isInvisible c then '\\' :: 'u' :: '\x7b' :: (Nat.toDigits 16 c.toNat ++ ['\x7d'])
  else [c]

def quotedInMessage (text : String) : String :=
  String.ofList ('"' :: (text.toList.flatMap messageChar ++ ['"']))

end EventFeed.Text
