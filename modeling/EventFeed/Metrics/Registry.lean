import EventFeed.Decimal.Binary64

/-!
# Metrics

Counters only grow, modulo `2 ^ 64`; a gauge holds the number it was last set to. A counter has a name
and, where requests are counted, the route of the request. One that was never touched counts as zero but
is not there to be seen.
-/

namespace EventFeed

/-- What a counter counts: its name, and the route for requests. -/
structure CounterKey where
  name : String
  route : Option String
  deriving DecidableEq, Repr

/-- The counters and gauges that were touched, each once. -/
structure Metrics where
  counters : List (CounterKey × UInt64)
  gauges : List (String × Binary64)
  deriving DecidableEq

namespace Metrics

def empty : Metrics := ⟨[], []⟩

/-- Changes what is held under a key, or begins with the change of `fresh` where there is nothing. -/
def alter {κ ν : Type} [DecidableEq κ] (key : κ) (change : ν → ν) (fresh : ν) :
    List (κ × ν) → List (κ × ν)
  | [] => [(key, change fresh)]
  | (other, held) :: rest =>
      if other = key then (other, change held) :: rest
      else (other, held) :: alter key change fresh rest

def held? {κ ν : Type} [DecidableEq κ] (key : κ) : List (κ × ν) → Option ν
  | [] => none
  | (other, held) :: rest => if other = key then some held else held? key rest

def add (metrics : Metrics) (key : CounterKey) (count : Nat) : Metrics :=
  { metrics with counters := alter key (· + UInt64.ofNat count) 0 metrics.counters }

def increment (metrics : Metrics) (name : String) (count : Nat) : Metrics :=
  metrics.add ⟨name, none⟩ count

def incrementRoute (metrics : Metrics) (name route : String) : Metrics :=
  metrics.add ⟨name, some route⟩ 1

def setGauge (metrics : Metrics) (name : String) (value : Binary64) : Metrics :=
  { metrics with gauges := alter name (fun _ => value) value metrics.gauges }

def counter (metrics : Metrics) (key : CounterKey) : UInt64 :=
  (held? key metrics.counters).getD 0

def gauge? (metrics : Metrics) (name : String) : Option Binary64 :=
  held? name metrics.gauges

theorem held?_alter_self {κ ν : Type} [DecidableEq κ] (key : κ) (change : ν → ν) (fresh : ν)
    (entries : List (κ × ν)) :
    held? key (alter key change fresh entries) = some (change ((held? key entries).getD fresh)) := by
  induction entries with
  | nil => simp [alter, held?]
  | cons entry rest ih =>
      obtain ⟨other, held⟩ := entry
      by_cases same : other = key <;> simp [alter, held?, same, ih]

theorem held?_alter_of_ne {κ ν : Type} [DecidableEq κ] {key asked : κ} (different : asked ≠ key)
    (change : ν → ν) (fresh : ν) (entries : List (κ × ν)) :
    held? asked (alter key change fresh entries) = held? asked entries := by
  induction entries with
  | nil => simp [alter, held?, different.symm]
  | cons entry rest ih =>
      obtain ⟨other, held⟩ := entry
      by_cases same : other = key
      · subst same
        simp [alter, held?, different.symm]
      · simp [alter, held?, same, ih]

theorem counter_add_self (metrics : Metrics) (key : CounterKey) (count : Nat) :
    (metrics.add key count).counter key = metrics.counter key + UInt64.ofNat count := by
  simp [counter, add, held?_alter_self]

theorem counter_add_of_ne (metrics : Metrics) {key asked : CounterKey} (different : asked ≠ key)
    (count : Nat) : (metrics.add key count).counter asked = metrics.counter asked := by
  simp [counter, add, held?_alter_of_ne different]

theorem counter_setGauge (metrics : Metrics) (name : String) (value : Binary64) (key : CounterKey) :
    (metrics.setGauge name value).counter key = metrics.counter key := rfl

theorem gauge?_setGauge_self (metrics : Metrics) (name : String) (value : Binary64) :
    (metrics.setGauge name value).gauge? name = some value := by
  simp [gauge?, setGauge, held?_alter_self]

theorem gauge?_setGauge_of_ne (metrics : Metrics) {name asked : String} (different : asked ≠ name)
    (value : Binary64) : (metrics.setGauge name value).gauge? asked = metrics.gauge? asked := by
  simp [gauge?, setGauge, held?_alter_of_ne different]

theorem gauge?_add (metrics : Metrics) (key : CounterKey) (count : Nat) (name : String) :
    (metrics.add key count).gauge? name = metrics.gauge? name := rfl

/-- The metrics of two parties taken together: counts are added, and a gauge of the second hides one of
the first. -/
def merge (first second : Metrics) : Metrics :=
  let counted := second.counters.foldl (fun total (key, count) => total.add key count.toNat) first
  second.gauges.foldl (fun total (name, value) => total.setGauge name value) counted

end Metrics

end EventFeed
