import EventFeed.Event

/-!
# Lines

What a raw line of an input file is. A line of blanks is told from other lines by its own rule, which
knows one blank more than JSON does: the form feed.
-/

namespace EventFeed

/-- Space, tab, line feed, form feed and carriage return. -/
def isLineBlank (b : UInt8) : Bool :=
  b = 0x20 || b = 0x09 || b = 0x0A || b = 0x0C || b = 0x0D

inductive Line where
  | event (event : Event)
  | blank
  | malformed (refusal : Refusal)

def Line.classify (line : List UInt8) : Line :=
  if line.all isLineBlank then .blank
  else
    match Event.parse line with
    | .ok parsed => .event parsed
    | .error refusal => .malformed refusal

end EventFeed
