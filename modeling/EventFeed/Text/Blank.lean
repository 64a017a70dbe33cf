/-!
# Blank characters

The characters that count as white space in Unicode, and texts without anything else.
-/

namespace EventFeed.Text

def isBlank (c : Char) : Bool :=
  let v := c.toNat
  (9 ≤ v && v ≤ 13) || v = 0x20 || v = 0x85 || v = 0xA0 || v = 0x1680 || (0x2000 ≤ v && v ≤ 0x200A) ||
    v = 0x2028 || v = 0x2029 || v = 0x202F || v = 0x205F || v = 0x3000

/-- Whether a text has nothing but white space, or nothing at all. -/
def isBlankText (text : List Char) : Bool :=
  text.all isBlank

def trim (text : List Char) : List Char :=
  ((text.dropWhile isBlank).reverse.dropWhile isBlank).reverse

end EventFeed.Text
