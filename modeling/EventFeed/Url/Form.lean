import EventFeed.Url.Percent

/-!
# Forms

A list of named values as one text: names and values with an equals sign between them, an ampersand
between neighbours, a plus sign for a space, and everything else but letters, digits and four marks
escaped.
-/

namespace EventFeed.Form

def escapeChar (c : Char) : List Char :=
  if c = ' ' then ['+'] else Percent.escapeChar Percent.keepsForm c

def escape (text : String) : List Char :=
  text.toList.flatMap escapeChar

def pairChars (pair : String × String) : List Char :=
  escape pair.1 ++ '=' :: escape pair.2

def append (before : List Char) : List (String × String) → List Char
  | [] => before
  | pair :: rest =>
      append (if before = [] then pairChars pair else before ++ '&' :: pairChars pair) rest

def encode (pairs : List (String × String)) : String :=
  String.ofList (append [] pairs)

def pieces (mark : Char) : List Char → List (List Char)
  | [] => [[]]
  | c :: rest =>
      if c = mark then [] :: pieces mark rest
      else
        match pieces mark rest with
        | [] => [[c]]
        | piece :: others => (c :: piece) :: others

def unescape (text : List Char) : String :=
  Utf8.toStringLossy (Percent.decode (text.map fun c => if c = '+' then ' ' else c))

def pairOf (piece : List Char) : String × String :=
  (unescape (piece.takeWhile (· ≠ '=')), unescape ((piece.dropWhile (· ≠ '=')).drop 1))

/-- The named values of a form. Empty pieces are passed over. -/
def decode (form : String) : List (String × String) :=
  ((pieces '&' form.toList).filter (· ≠ [])).map pairOf

end EventFeed.Form
