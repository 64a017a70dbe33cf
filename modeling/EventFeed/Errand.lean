import EventFeed.Files.Source
import EventFeed.Http.Message
import EventFeed.Metrics.Registry
import EventFeed.Throughput

/-!
# Errands

Work that needs something from outside: the working directory, a look at files, a reply to a request, a free
port, the time that has gone by. It can also let its metrics be seen. An errand says what it needs and how it goes
on with each possible answer; it does nothing itself. `Errand.run` gives it the answers of a `World` and keeps the
requests that arrived there.
-/

namespace EventFeed

/-- Work that ends in a result and asks for things on the way. -/
inductive Errand (α : Type) where
  | done (result : α)
  | send (request : Http.Request) (next : Http.Reply → Errand α)
  | locate (next : Except SystemFault (List FileName) → Errand α)
  | inspect (path : Path) (next : Except SystemFault Found → Errand α)
  | takePort (port : Nat) (next : Option SystemFault → Errand α)
  | elapsed (next : Duration → Errand α)
  | publish (metrics : Metrics) (next : Errand α)

namespace Errand

variable {α β : Type}

def bind : Errand α → (α → Errand β) → Errand β
  | done result, next => next result
  | send request onward, next => send request fun reply => (onward reply).bind next
  | locate onward, next => locate fun directory => (onward directory).bind next
  | inspect path onward, next => inspect path fun found => (onward found).bind next
  | takePort port onward, next => takePort port fun fault => (onward fault).bind next
  | elapsed onward, next => elapsed fun span => (onward span).bind next
  | publish metrics onward, next => publish metrics (onward.bind next)

instance : Monad Errand where
  pure := done
  bind := bind

def ask (request : Http.Request) : Errand Http.Reply :=
  send request done

/-- Asks for the working directory, by its names from the top. -/
def whereabouts : Errand (Except SystemFault (List FileName)) :=
  locate done

def look (path : Path) : Errand (Except SystemFault Found) :=
  inspect path done

def claimPort (port : Nat) : Errand (Option SystemFault) :=
  takePort port done

def timePassed : Errand Duration :=
  elapsed done

def exhibit (metrics : Metrics) : Errand Unit :=
  publish metrics (done ())

end Errand

/-- What an errand meets outside. Requests arrive where `reaches` says so, and the replies to those that
arrive are told by their number. -/
structure World where
  reaches : Url → Bool
  reply : Nat → Http.Reply
  /-- The names of the working directory from the top. -/
  directory : Except SystemFault (List FileName)
  files : Path → Except SystemFault Found
  portFault : Nat → Option SystemFault
  elapsed : Duration

namespace Errand

variable {α : Type}

/-- Runs an errand in a world in which so many requests have arrived before. The requests that arrive are
kept in order. -/
def runFrom (world : World) (arrived : Nat) : Errand α → List Http.Request × α
  | done result => ([], result)
  | send request next =>
      if world.reaches request.url then
        let (later, result) := runFrom world (arrived + 1) (next (world.reply arrived))
        (request :: later, result)
      else runFrom world arrived (next .lost)
  | locate next => runFrom world arrived (next world.directory)
  | inspect path next => runFrom world arrived (next (world.files path))
  | takePort port next => runFrom world arrived (next (world.portFault port))
  | elapsed next => runFrom world arrived (next world.elapsed)
  | publish _ next => runFrom world arrived next

def run (world : World) (errand : Errand α) : List Http.Request × α :=
  errand.runFrom world 0

end Errand

end EventFeed
