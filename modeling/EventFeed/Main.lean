import EventFeed.Command.Help
import EventFeed.Command.Perform
import EventFeed.Http.Wire
import EventFeed.Metrics.Page
import Std.Async.DNS
import Std.Async.TCP

/-!
# The command line

Runs the tool that the first word names, and does for its errand what it asks for: looks at files, sends
requests, serves metrics, and looks at the clock. What the tool comes to is printed.
-/

namespace EventFeed.Main

open Std.Async

/-! ## Files -/

def errorNumber : IO.Error → Nat × String
  | .alreadyExists _ number words | .noFileOrDirectory _ number words | .interrupted _ number words
  | .invalidArgument _ number words | .permissionDenied _ number words | .resourceExhausted _ number words
  | .inappropriateType _ number words | .noSuchThing _ number words | .otherError number words
  | .resourceBusy number words | .resourceVanished number words | .unsupportedOperation number words
  | .hardwareFault number words | .unsatisfiedConstraints number words | .illegalOperation number words
  | .protocolError number words | .timeExpired number words => (number.toNat, words)
  | .unexpectedEof => (0, "unexpected end of file")
  | .userError words => (0, words)

/-- The fault that an error tells. The network counts its numbers from the other end. -/
def faultOf (error : IO.Error) : SystemFault :=
  let (number, words) := errorNumber error
  .ofNumber (if 2147483648 < number then 4294967296 - number else number) words

def attempt {α : Type} (action : IO α) : IO (Except SystemFault α) :=
  try
    return .ok (← action)
  catch error => return .error (faultOf error)

def contentOf (name : String) : IO Content := do
  match ← attempt (IO.FS.readBinFile name) with
  | .ok bytes => return .readable bytes.toList none
  | .error fault => return .closed fault

def workingDirectory : IO (Except SystemFault (List FileName)) :=
  attempt do
    let place ← IO.FS.realPath "."
    return (Path.pieces (Utf8.ofString place.toString)).filter (· ≠ [])

def lookAt (path : Path) : IO (Except SystemFault Found) :=
  attempt do
    let place ← IO.FS.realPath path.text
    if ← place.isDir then
      let entries ← (← place.readDir).toList.mapM fun entry => do
        let name := Utf8.ofString entry.fileName
        match ← attempt entry.path.metadata with
        | .ok { type := .file, .. } => return (name, some (← contentOf (path.join name).text))
        | _ => return (name, none)
      return .directory entries
    else return .file (← contentOf path.text)

/-! ## The network -/

def addressesOf (host : Host) : Async (List Std.Net.IPAddr) := do
  match host with
  | .name name => return (← DNS.getAddrInfo name "").toList
  | host =>
      let text := host.text
      match Std.Net.IPv4Addr.ofString text with
      | some address => return [.v4 address]
      | none =>
          match Std.Net.IPv6Addr.ofString ((text.drop 1).dropEnd 1).toString with
          | some address => return [.v6 address]
          | none => return []

def socketAddress (port : UInt16) : Std.Net.IPAddr → Std.Net.SocketAddress
  | .v4 address => .v4 ⟨address, port⟩
  | .v6 address => .v6 ⟨address, port⟩

/-- Connects to the first address that answers. -/
def connect (port : UInt16) : List Std.Net.IPAddr → Async (Option TCP.Socket.Client)
  | [] => return none
  | address :: rest => do
      let client ← TCP.Socket.Client.mk
      try
        client.connect (socketAddress port address)
        return some client
      catch _ => connect port rest

partial def receive (client : TCP.Socket.Client) (bytes : List UInt8) : Async Http.Reply := do
  let chunk ← client.recv? 65536
  let bytes := bytes ++ (chunk.map ByteArray.toList).getD []
  match Http.received chunk.isNone bytes with
  | .whole response => return .response response
  | .broken => return .lost
  | .part => if chunk.isNone then return .lost else receive client bytes

def send (request : Http.Request) : Async Http.Reply := do
  match request.url.scheme, request.url.effectivePort? with
  | "http", some port =>
      match ← connect (UInt16.ofNat port) (← addressesOf request.url.host) with
      | none => return .lost
      | some client =>
          client.send (ByteArray.mk request.wire.toArray)
          receive client []
  | _, _ => return .lost

/-- Sends a request; one that fails is lost. -/
def sendRequest (request : Http.Request) : IO Http.Reply := do
  try
    (send request).block
  catch _ => return .lost

/-! ## Metrics -/

partial def receiveHead (client : TCP.Socket.Client) (bytes : List UInt8) : Async (Option String) := do
  match Http.askedPath? bytes with
  | some path => return some path
  | none =>
      match ← client.recv? 4096 with
      | none => return none
      | some chunk => receiveHead client (bytes ++ chunk.toList)

def answerMetrics (metrics : IO.Ref Metrics) (client : TCP.Socket.Client) : Async Unit := do
  match ← receiveHead client [] with
  | none => return ()
  | some path =>
      let (code, text) := (← metrics.get).serve path
      match Http.Status.ofNat? code with
      | none => return ()
      | some status =>
          client.send (ByteArray.mk (Http.answer status text).toArray)
          client.shutdown

/-- The metrics to be shown, and whether the tool has come to its end. -/
structure Board where
  metrics : IO.Ref Metrics
  ended : IO.Ref Bool

partial def serveMetrics (board : Board) (server : TCP.Socket.Server) : IO Unit := do
  if ← board.ended.get then return ()
  match ← server.tryAccept with
  | none => IO.sleep 20
  | some client =>
      try
        (answerMetrics board.metrics client).block
      catch _ => pure ()
  serveMetrics board server

def startServer (board : Board) (port : Nat) : IO (Option SystemFault) := do
  let started ← attempt do
    let server ← TCP.Socket.Server.mk
    server.bind (.v4 ⟨.ofParts 0 0 0 0, UInt16.ofNat port⟩)
    server.listen 128
    let _ ← IO.asTask (serveMetrics board server) .dedicated
  match started with
  | .ok () => return none
  | .error fault => return some fault

/-! ## Errands -/

def fulfil {α : Type} (start : Nat) (board : Board) : Errand α → IO α
  | .done result => return result
  | .send request next => do fulfil start board (next (← sendRequest request))
  | .locate next => do fulfil start board (next (← workingDirectory))
  | .inspect path next => do fulfil start board (next (← lookAt path))
  | .takePort port next => do fulfil start board (next (← startServer board port))
  | .elapsed next => do
      let nanos := (← IO.monoNanosNow) - start
      fulfil start board (next ⟨nanos / 1000000000, nanos % 1000000000⟩)
  | .publish shown next => do
      board.metrics.set shown
      fulfil start board next

def readEnvironment : IO Environment := do
  match ← attempt (IO.FS.readBinFile "/proc/self/environ") with
  | .error _ => return []
  | .ok bytes =>
      return ((String.fromUTF8? bytes).getD "").splitOn "\x00" |>.filterMap fun entry =>
        match entry.splitOn "=" with
        | name :: value => some (name, "=".intercalate value)
        | [] => none

partial def waitForEver : IO UInt32 := do
  IO.sleep 60000
  waitForEver

def conclude (tool : Command.Tool) (outcome : Command.Outcome) : IO UInt32 := do
  match outcome with
  | .printed text => (← IO.getStdout).putStr text
  | .failed complaint => (← IO.getStderr).putStrLn complaint.text
  | .stopped .helpWanted => (← IO.getStdout).putStr tool.usage
  | .stopped stop => (← IO.getStderr).putStrLn ("error: " ++ stop.text ++ "\n\n" ++ tool.usage)
  | .waiting => return (← waitForEver)
  return UInt32.ofNat (outcome.exitCode?.getD 0)

def run (words : List String) : IO UInt32 := do
  match words with
  | [] => do
      (← IO.getStderr).putStr Command.usage
      return 2
  | name :: words =>
      match Command.Tool.ofName? name with
      | none => do
          (← IO.getStderr).putStr Command.usage
          return 2
      | some tool => do
          let board : Board := ⟨← IO.mkRef Metrics.empty, ← IO.mkRef false⟩
          let outcome ← fulfil (← IO.monoNanosNow) board (tool.run (← readEnvironment) words)
          board.ended.set true
          conclude tool outcome

end EventFeed.Main

def main (words : List String) : IO UInt32 :=
  EventFeed.Main.run words
