/-!
# Thousands separators

A count is written with a comma before every three digits that end it. Whether a digit is followed by a
comma depends on how many digits come after it.
-/

namespace EventFeed.Text

/-- Digits in groups of three, counted from the end. -/
def grouped : List Char → List Char
  | [] => []
  | digit :: rest =>
      if rest.length ≠ 0 ∧ rest.length % 3 = 0 then digit :: ',' :: grouped rest
      else digit :: grouped rest

def thousands (n : Nat) : String :=
  String.ofList (grouped (Nat.toDigits 10 n))

end EventFeed.Text
