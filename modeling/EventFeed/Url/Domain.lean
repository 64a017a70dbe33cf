import EventFeed.Url.Form
import EventFeed.Url.Label

/-!
# Names of servers

A name is brought to a form in which it can be compared: every character is replaced by what it is taken for,
the whole is brought to normal form, and its labels are written in ASCII. Where one label has a letter that
is written from right to left, every label keeps one direction.
-/

namespace EventFeed.Domain

/-- What the characters of a name are taken for, in normal form; none where one is in no name. -/
def normal? (name : List Char) : Option (List Char) :=
  if name.all (·.toNat < 128) then some (name.map Char.toLower)
  else (name.mapM NameChar.mapped?).map fun points => (Unicode.normal points.flatten).map Char.ofNat

/-- Whether the directions of a name's labels fit together. -/
def keepsDirections (labels : List Label) : Bool :=
  !labels.any (fun label => label.meant.any Unicode.turns) ||
    labels.all fun label => Unicode.keepsDirection label.meant

def ascii? (name : List Char) : Option (List Char) :=
  match normal? name with
  | none => none
  | some name =>
      match (Form.pieces '.' name).mapM Label.ofNormal? with
      | none => none
      | some labels =>
          if keepsDirections labels then some (['.'].intercalate (labels.map Label.written)) else none

def ofEscaped? (text : List Char) : Option (List Char) :=
  match Utf8.decode? (Percent.decode text) with
  | none => none
  | some name => ascii? name

end EventFeed.Domain
