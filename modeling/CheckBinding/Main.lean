import CheckBinding.Agent.Startup
import CheckBinding.Api.Message
import CheckBinding.World
import Std.Async.DNS
import Std.Async.Signal
import Std.Async.TCP
import Std.Async.Timer

/-!
The agent as a program: answers the effects of the library from the system it runs on.

What is decided here is only how a request to the surroundings is carried out. Secure connections
are not among what it can carry out.
-/

namespace CheckBinding

open Std.Async

structure System where
  client : Option Api.Http.Client
  counters : IO.Ref (List (Counter × Nat))

namespace System

/-! ### Files -/

def storageFault : IO.Error → Storage.Fault
  | .noFileOrDirectory _ _ _ => .notFound
  | .inappropriateType _ _ details =>
      if details.toLower = "is a directory" then .isDirectory else .notDirectory
  | .resourceBusy _ _ => .busy
  | other => .other (toString other)

def perform : (operation : Storage.Operation) → IO operation.Result
  | .inspect path => do
      try
        let file ← IO.FS.Handle.mk path .read
        let _ ← file.read 1
        return .file
      catch error =>
        if storageFault error = .isDirectory then return .directory else throw error
  | .read path => IO.FS.readBinFile path
  | .openEmpty path => IO.FS.writeBinFile path ByteArray.empty
  | .append path bytes => do
      let file ← IO.FS.Handle.mk path .append
      file.write bytes
  | .sync path => do
      let file ← IO.FS.Handle.mk path .append
      file.flush
  | .rename source target => IO.FS.rename source target
  | .remove path => IO.FS.removeFile path

def storage (operation : Storage.Operation) :
    IO (Except Storage.Fault operation.Result) := do
  try
    return .ok (← perform operation)
  catch error =>
    return .error (storageFault error)

/-! ### Connections -/

def milliseconds (span : Duration) : Std.Time.Millisecond.Offset :=
  .ofNat (max 1 (span.nanoseconds / Nat.pow 10 6))

/-- Waits for a result at most as long as a span. -/
def within {Value : Type} (span : Duration) (work : Async Value) : Async (Option Value) :=
  Async.race (do return some (← work)) (do
    sleep (milliseconds span)
    return none)

def socketAddress (host : Std.Net.IPAddr) (port : UInt16) : Std.Net.SocketAddress :=
  match host with
  | .v4 addr => .v4 ⟨addr, port⟩
  | .v6 addr => .v6 ⟨addr, port⟩

def connectFirst (port : UInt16) : List Std.Net.IPAddr → Async TCP.Socket.Client
  | [] => throw (IO.userError "no address accepted the connection")
  | host :: rest => do
      let client ← TCP.Socket.Client.mk
      try
        client.connect (socketAddress host port)
        return client
      catch error =>
        if rest.isEmpty then throw error else connectFirst port rest

def connectTo (host : String) (port : UInt16) : Async TCP.Socket.Client := do
  let addresses ← DNS.getAddrInfo host (Text.decimal port.toNat)
  connectFirst port addresses.toList

/-- Makes one attempt to connect. The connection is given up at once. -/
def attempt (endpoint : Endpoint) (timeout : Duration) : IO Attempt := do
  try
    match ← (within timeout (connectTo endpoint.host endpoint.port)).block with
    | none => return .timedOut
    | some _ => return .connected
  catch _ => return .refused

/-- Receives all that comes on a connection. -/
partial def receiveAll (client : TCP.Socket.Client) (received : ByteArray) :
    Async ByteArray := do
  match ← client.recv? 65536 with
  | none => return received
  | some bytes => receiveAll client (received ++ bytes)

def exchange (host : String) (port : UInt16) (bytes : ByteArray) : Async ByteArray := do
  let client ← connectTo host port
  client.send bytes
  receiveAll client ByteArray.empty

def transport (timeout : Duration) (request : Api.Http.Request) :
    IO (Except String Api.Http.Response) := do
  match Api.Http.Target.ofRequest? request with
  | none => return .error "the address cannot be used"
  | some target =>
      if target.secure then return .error "secure connections are not available"
      else
        try
          let sent := exchange target.host (UInt16.ofNat target.port) (request.toBytes target)
          match ← (within timeout sent).block with
          | none => return .error "operation timed out"
          | some bytes =>
              match Api.Http.Response.ofBytes? bytes with
              | some response => return .ok response
              | none => return .error "the response cannot be read"
        catch error => return .error (toString error)

def call (system : System) (call : Api.Call) : IO call.Answer := do
  match system.client with
  | none => return .error (.http "no client")
  | some client =>
      match client.request call with
      | .error fault => return .error fault
      | .ok request => return Api.Http.interpret call (← transport client.timeout request)

/-! ### Counters -/

/-- Answers connections with reports on the counters. -/
partial def reportTo (system : System) (server : TCP.Socket.Server) : Async Unit := do
  let client ← server.accept
  try
    let _ ← client.recv? 65536
    let body := (Counter.report (← system.counters.get)).toUTF8
    let head := "HTTP/1.1 200 OK\r\ncontent-type: text/plain\r\nconnection: close\r\n" ++
      "content-length: " ++ Text.decimal body.size ++ "\r\n\r\n"
    client.send (head.toUTF8 ++ body)
    client.shutdown
  catch _ => pure ()
  reportTo system server

def listenAddress : SocketAddress → Std.Net.SocketAddress
  | .v4 host port =>
      .v4 ⟨Std.Net.IPv4Addr.ofParts host.first host.second host.third host.fourth, port⟩
  | .v6 host _ port => .v6 ⟨⟨host.groups⟩, port⟩

def listen (system : System) (address : SocketAddress) : IO Bool := do
  try
    let server ← TCP.Socket.Server.mk
    server.bind (listenAddress address)
    server.listen 128
    let _ ← (reportTo system server).asTask
    return true
  catch _ => return false

/-! ### Programs -/

def answerPlain (system : System) : (effect : Effect) → IO effect.Answer
  | .call request => system.call request
  | .storage operation => storage operation
  | .clock => IO.monoNanosNow
  | .probe _ _ _ => return none
  | .connect endpoint timeout => attempt endpoint timeout
  | .sleep span => (sleep (milliseconds span)).block
  | .choose others => do
      return ⟨(← IO.rand 0 others) % (others + 1), Nat.mod_lt _ (Nat.succ_pos others)⟩
  | .listen address => system.listen address
  | .count counter amount => system.counters.modify (World.addCount counter amount)

def interpret {Result : Type} (answer : (effect : Effect) → IO effect.Answer) :
    Program Result → IO Result
  | .done result => return result
  | .perform effect next => do interpret answer (next (← answer effect))

def answer (system : System) : (effect : Effect) → IO effect.Answer
  | .probe endpoint timeout attempts =>
      interpret system.answerPlain (Probing.probe endpoint timeout attempts)
  | effect => system.answerPlain effect

def run {Result : Type} (system : System) (program : Program Result) : IO Result :=
  interpret system.answer program

/-- Keeps a binding fresh until the interrupt signal comes. -/
partial def keep (system : System) (interrupted : AsyncTask Int) (every : Duration)
    (controller : Controller) : IO Unit := do
  match ← (within every (await interrupted)).block with
  | some _ => return ()
  | none => system.keep interrupted every (← system.run (Agent.tick controller))

def complain (fault : StartFault) : IO UInt32 := do
  IO.eprintln ("Error: " ++ fault.message)
  match fault.cause? with
  | some cause => IO.eprintln ("Caused by: " ++ cause.message)
  | none => pure ()
  return 1

def serve (system : System) (config : Config) : IO UInt32 := do
  match ← system.run (Agent.bind config) with
  | .error fault => complain fault
  | .ok controller =>
      if controller.isInitialized then
        let interrupted ← (← Signal.Waiter.mk .sigint false).wait
        system.keep interrupted config.metricRefreshTtl controller
      return 0

def start (arguments : Arguments) : IO UInt32 := do
  let system : System := ⟨none, ← IO.mkRef []⟩
  match ← system.run (Agent.prepare arguments) with
  | .error fault => complain fault
  | .ok prepared =>
      System.serve { system with client := some prepared.client } prepared.config.check

end System
end CheckBinding

def main (words : List String) : IO UInt32 := do
  match CheckBinding.Arguments.parse words with
  | .error .helpRequested =>
      IO.println (CheckBinding.Arguments.Fault.message .helpRequested)
      return 0
  | .error fault =>
      IO.eprintln ("error: " ++ fault.message)
      return 2
  | .ok arguments => CheckBinding.System.start arguments
