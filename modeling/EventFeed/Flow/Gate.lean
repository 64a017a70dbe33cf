/-!
# The gate before a reader

A gate is shut and opened from outside, and waiters pass when they find it open. A waiter that finds it
shut holds a ticket; opening the gate takes two steps, first the flag is cleared and then every ticket
taken until then is honoured. A waiter whose ticket was honoured takes a new one and looks at the flag
again. Since the ticket is taken before the flag is looked at, no opening in between is missed.
-/

namespace EventFeed.Flow

inductive Waiter where
  /-- Has not begun. -/
  | fresh
  /-- Holds a ticket and has not looked at the flag since. -/
  | ticketed (honoured : Bool)
  /-- Found the gate shut and waits for its ticket. -/
  | waiting (honoured : Bool)
  /-- Found the gate open. -/
  | passed
  | dropped
  deriving DecidableEq, Repr

/-- A gate with everyone who has come to it, in order. -/
structure Gate where
  shut : Bool
  /-- How many openings have cleared the flag and not honoured tickets yet. -/
  opening : Nat
  waiters : List Waiter
  deriving DecidableEq, Repr

namespace Gate

def new : Gate := ⟨false, 0, []⟩

def pause (gate : Gate) : Gate :=
  { gate with shut := true }

/-- The first half of an opening. -/
def clear (gate : Gate) : Gate :=
  { gate with shut := false, opening := gate.opening + 1 }

/-- A waiter after all tickets were honoured. -/
def honour : Waiter → Waiter
  | .ticketed _ => .ticketed true
  | .waiting _ => .waiting true
  | other => other

/-- The second half of an opening. -/
def notify (gate : Gate) : Gate :=
  { gate with opening := gate.opening - 1, waiters := gate.waiters.map honour }

def resume (gate : Gate) : Gate :=
  gate.clear.notify

/-- A new waiter comes; its number is the number of those before it. -/
def join (gate : Gate) : Gate :=
  { gate with waiters := gate.waiters ++ [.fresh] }

/-- A waiter takes a ticket: at first, and whenever its ticket was honoured. -/
def takeTicket : Waiter → Waiter
  | .fresh => .ticketed false
  | .waiting true => .ticketed false
  | other => other

def look (shut : Bool) : Waiter → Waiter
  | .ticketed honoured => if shut then .waiting honoured else .passed
  | other => other

/-- A waiter goes on as far as it can without anything else happening. Once it holds a ticket that was not
honoured, one look settles where it stays. -/
def advance (shut : Bool) (waiter : Waiter) : Waiter :=
  look shut (takeTicket (look shut waiter))

def leave : Waiter → Waiter
  | .passed => .passed
  | _ => .dropped

def change (gate : Gate) (index : Nat) (step : Waiter → Waiter) : Gate :=
  { gate with waiters := gate.waiters.modify index step }

/-- What a waiter that is asked whether it can go on answers. -/
inductive Poll where
  | ready
  | pending
  /-- It had passed or left before. -/
  | done
  deriving DecidableEq, Repr

def poll (gate : Gate) (index : Nat) : Gate × Poll :=
  match gate.waiters[index]? with
  | none => (gate, .done)
  | some .passed => (gate, .done)
  | some .dropped => (gate, .done)
  | some waiter =>
      let moved := advance gate.shut waiter
      (gate.change index fun _ => moved, if moved = .passed then .ready else .pending)

/-- Whether a waiter waits for a ticket that was not honoured: only such a one is woken. -/
def isWaiting : Waiter → Bool
  | .waiting false => true
  | _ => false

/-- Which waiters a change of the gate woke. -/
def woken (before after : Gate) : List Bool :=
  after.waiters.mapIdx fun index waiter =>
    waiter == .waiting true && (before.waiters[index]?.map isWaiting).getD false

end Gate

end EventFeed.Flow
