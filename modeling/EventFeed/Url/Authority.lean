import EventFeed.Url.FromText

/-!
# Authorities

The part of an address that names who is asked where: a user perhaps, a host, and a port perhaps. Only some
characters may stand there, at most one colon behind the user and the brackets, and no escapes but in the
user or in brackets.
-/

namespace EventFeed

/-- What matters of the part of an authority that has been passed. -/
structure Authority where
  /-- The colons since the last at sign or closing bracket. -/
  colons : Nat
  opened : Bool
  closed : Bool
  /-- Whether there was an escape since the last at sign or closing bracket. -/
  escaped : Bool
  /-- Whether an at sign was last. -/
  atUser : Bool
  deriving DecidableEq, Repr

namespace Authority

def isNameChar (c : Char) : Bool :=
  c.isAlphanum || ['!', '$', '&', '\'', '(', ')', '*', '+', ',', '-', '.', ';', '=', '_', '~'].contains c

/-- Passes a character; none when it may not stand there. -/
def pass (authority : Authority) (c : Char) : Option Authority :=
  if c = ':' then
    if 8 ≤ authority.colons then none
    else some { authority with colons := authority.colons + 1, atUser := false }
  else if c = '[' then
    if authority.escaped || authority.opened then none
    else some { authority with opened := true, atUser := false }
  else if c = ']' then
    if !authority.opened || authority.closed then none
    else some { authority with closed := true, colons := 0, escaped := false, atUser := false }
  else if c = '@' then some { authority with colons := 0, escaped := false, atUser := true }
  else if c = '%' then some { authority with escaped := true, atUser := false }
  else if isNameChar c then some { authority with atUser := false }
  else none

def isWhole (authority : Authority) : Bool :=
  authority.opened == authority.closed && authority.colons ≤ 1 && !authority.atUser && !authority.escaped

def accepts (text : List Char) : Bool :=
  match text.foldlM pass ⟨0, false, false, false, false⟩ with
  | none => false
  | some authority => authority.isWhole

end Authority

end EventFeed
