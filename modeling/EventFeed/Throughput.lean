import EventFeed.Decimal.Binary64

/-!
# Throughput

Averages over the time since a run began. A very short time is taken for a thousandth of a second, so
that the averages stay finite.
-/

namespace EventFeed

structure Duration where
  seconds : Nat
  nanos : Nat
  deriving DecidableEq, Repr

namespace Duration

def zero : Duration := ⟨0, 0⟩

def ofMilliseconds (count : Nat) : Duration :=
  ⟨count / 1000, count % 1000 * 1000000⟩

/-- The whole thousandths of a second in a span. -/
def milliseconds (span : Duration) : Nat :=
  span.seconds * 1000 + span.nanos / 1000000

theorem milliseconds_ofMilliseconds (count : Nat) : (ofMilliseconds count).milliseconds = count := by
  simp only [ofMilliseconds, milliseconds]
  omega

def inSeconds (span : Duration) : Binary64 :=
  (Binary64.ofNat span.seconds).add ((Binary64.ofNat span.nanos).div (Binary64.ofNat 1000000000))

end Duration

structure Throughput where
  eventsPerSecond : Binary64
  bytesPerSecond : Binary64
  seconds : Binary64

namespace Throughput

/-- The shortest time that averages are taken over. -/
def shortestSpan : Binary64 :=
  (Binary64.ofNat 1).div (Binary64.ofNat 1000)

def ofFigures (span : Duration) (events bytes : Nat) : Throughput :=
  let seconds := span.inSeconds
  let divisor := seconds.larger shortestSpan
  ⟨(Binary64.ofNat events).div divisor, (Binary64.ofNat bytes).div divisor, seconds⟩

end Throughput

end EventFeed
