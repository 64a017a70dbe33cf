import EventFeed.Unicode.Direction
import EventFeed.Unicode.Joining
import EventFeed.Unicode.Normal
import EventFeed.Url.NameChar
import EventFeed.Url.Punycode

/-!
# Labels

The pieces of a server's name between points. A label with characters outside ASCII is written in Punycode
behind `xn--`; a label that comes in this form has to stand for one that could have been given itself.
-/

namespace EventFeed

/-- A label as it is meant and as it is written. -/
structure Label where
  meant : List Char
  written : List Char
  deriving DecidableEq, Repr

namespace Label

def isForbidden (c : Char) : Bool :=
  c.toNat ≤ 0x20 || c.toNat = 0x7F ||
    ['#', '%', '/', ':', '<', '>', '?', '@', '[', '\\', ']', '^', '|'].contains c

def isForeign (text : List Char) : Bool :=
  text.any (128 ≤ ·.toNat)

/-- Whether characters that stand for themselves make up a label: no mark comes first, and joiners are where
they join. -/
def isFormed (text : List Char) : Bool :=
  text.all NameChar.isKept && !(text.head?.any Unicode.isMark) && Unicode.keepsJoiners [] text

def isNormal (text : List Char) : Bool :=
  Unicode.normal (text.map Char.toNat) == text.map Char.toNat

def ofPunycode? (spelled : List Char) : Option (List Char) :=
  if isForeign spelled then none
  else
    match Punycode.decode? spelled with
    | none => none
    | some meant =>
        if isForeign meant && isNormal meant && isFormed meant && !meant.any isForbidden then some meant
        else none

def ofNormal? (text : List Char) : Option Label :=
  if text.any isForbidden then none
  else
    match text with
    | 'x' :: 'n' :: '-' :: '-' :: spelled => (ofPunycode? spelled).map fun meant => ⟨meant, text⟩
    | _ =>
        if !isForeign text then some ⟨text, text⟩
        else if isFormed text then some ⟨text, 'x' :: 'n' :: '-' :: '-' :: Punycode.encode text⟩
        else none

end Label

end EventFeed
