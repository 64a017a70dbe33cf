import EventFeed.Client.Failure
import EventFeed.Text.Blank
import EventFeed.Throughput
import EventFeed.Url.FromText

/-!
# Client settings

Where the cluster is and how long an answer is waited for.
-/

namespace EventFeed.Client

structure Settings where
  host : String
  port : Nat
  timeout : Duration
  deriving DecidableEq, Repr

inductive SettingsFault where
  | emptyHost
  | zeroPort
  | zeroTimeout
  | badUrl (fault : UrlFault)
  deriving DecidableEq, Repr

def SettingsFault.message : SettingsFault → String
  | .emptyHost => "host must not be empty"
  | .zeroPort => "port must be non-zero"
  | .zeroTimeout => "timeout must be non-zero"
  | .badUrl fault => "invalid base URL: " ++ fault.message

namespace Settings

def usualHost : String := "127.0.0.1"

def usualPort : Nat := 2020

/-- The host without slashes at its end, and the port, as they follow `http:`. -/
def serverText (settings : Settings) : String :=
  "//" ++ String.ofList (settings.host.toList.reverse.dropWhile (· = '/')).reverse ++ ":" ++
    toString settings.port

def baseText (settings : Settings) : String :=
  "http:" ++ settings.serverText

/-- The first fault, if there is any. -/
def fault? (settings : Settings) : Option SettingsFault :=
  if Text.isBlankText settings.host.toList then some .emptyHost
  else if settings.port = 0 then some .zeroPort
  else if settings.timeout = Duration.zero then some .zeroTimeout
  else none

def base (settings : Settings) : Except SettingsFault Url :=
  match settings.fault? with
  | some fault => .error fault
  | none =>
      match Url.ofHttpText settings.serverText with
      | .ok url => .ok url
      | .error fault => .error (.badUrl fault)

end Settings

end EventFeed.Client
