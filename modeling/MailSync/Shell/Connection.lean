import Std.Internal.UV.DNS
import Std.Internal.UV.TCP
import MailSync.Http.Message
import MailSync.ProtocolSettings

/-!
# Connections

Carries requests over TCP. There is no TLS here, so only servers without it can be reached.
-/
namespace MailSync.Shell
open Std.Internal.UV (TCP.Socket)

/-- What there is of a deadline, in milliseconds on the clock. -/
abbrev Deadline := Nat

def deadlineIn (seconds : UInt64) : IO Deadline := return (← IO.monoMsNow) + 1000 * seconds.toNat

/-- Waits for a result, but not beyond a deadline. -/
partial def await {α : Type} (deadline : Deadline) (promise : IO.Promise (Except IO.Error α)) :
    IO (Except TransportError α) := do
  if ← IO.hasFinished promise.result? then
    match promise.result?.get with
    | some (.ok a) => return .ok a
    | some (.error e) => return .error ⟨.io, toString e⟩
    | none => return .error ⟨.io, "the connection was given up"⟩
  else if deadline ≤ (← IO.monoMsNow) then return .error ⟨.timeout, "timeout"⟩
  else
    IO.sleep 2
    await deadline promise

/-- As the first failure of an action, should it fail by itself. -/
def guarded {α : Type} (fault : NetworkFault) (act : IO (Except TransportError α)) :
    IO (Except TransportError α) := do
  match ← act.toBaseIO with
  | .ok result => return result
  | .error e => return .error ⟨fault, toString e⟩

def socketAddress (port : UInt16) : Std.Net.IPAddr → Std.Net.SocketAddress
  | .v4 addr => .v4 ⟨addr, port⟩
  | .v6 addr => .v6 ⟨addr, port⟩

/-- The addresses of a host. -/
def resolve (deadline : Deadline) (host : String) :
    IO (Except TransportError (List Std.Net.IPAddr)) :=
  guarded .unknownHost do
    let name := String.ofList (host.toList.filter fun c => c ≠ '[' && c ≠ ']')
    match ← await deadline (← Std.Internal.UV.DNS.getAddrInfo name "" 0) with
    | .ok found => return .ok found.toList
    | .error ⟨.timeout, detail⟩ => return .error ⟨.timeout, detail⟩
    | .error e => return .error ⟨.unknownHost, e.detail⟩

/-- Connects to the first address that answers. -/
def connect (deadline : Deadline) (port : UInt16) :
    List Std.Net.IPAddr → IO (Except TransportError TCP.Socket)
  | [] => return .error ⟨.connectionFailed, "Connection failed"⟩
  | addr :: rest => do
    let result ← guarded .io do
      let socket ← TCP.Socket.new
      match ← await deadline (← socket.connect (socketAddress port addr)) with
      | .ok () => return .ok socket
      | .error e => return .error e
    match result with
    | .ok socket => return .ok socket
    | .error ⟨.timeout, detail⟩ => return .error ⟨.timeout, detail⟩
    | .error _ => connect deadline port rest

/-- Receives until the server closes the connection. -/
partial def receive (deadline : Deadline) (socket : TCP.Socket) (received : ByteArray) :
    IO (Except TransportError ByteArray) := do
  match ← await deadline (← socket.recv? 65536) with
  | .ok (some more) => receive deadline socket (received ++ more)
  | .ok none => return .ok received
  | .error e => return .error e

def exchange (deadline : Deadline) (socket : TCP.Socket) (message : Bytes) :
    IO (Except TransportError Reply) := do
  match ← await deadline (← socket.send #[⟨message.toArray⟩]) with
  | .error e => return .error e
  | .ok () =>
    match ← receive deadline socket .empty with
    | .error e => return .error e
    | .ok received =>
      match Http.readReply received.data.toList with
      | some reply => return .ok reply
      | none => return .error ⟨.io, "the reply is not whole"⟩

/-- Posts a request and waits for the reply. -/
def post (settings : ProtocolSettings) (a : Account) (r : Request) :
    IO (Except TransportError Reply) := do
  match Http.permittedAddress a r with
  | .error e => return .error e
  | .ok url =>
    if a.server.security = .tls then return .error ⟨.tls, "TLS is not available"⟩
    let deadline ← deadlineIn r.timeout
    let connectDeadline := min deadline (← deadlineIn settings.connectTimeout)
    match ← resolve connectDeadline url.host with
    | .error e => return .error e
    | .ok addresses =>
      let port := UInt16.ofNat (url.port.getD a.server.defaultPort.toNat)
      match ← connect connectDeadline port addresses with
      | .error e => return .error e
      | .ok socket =>
        let headers := Http.headers settings.userAgent a r
        guarded .io (exchange deadline socket (Http.requestBytes url headers r.body))

end MailSync.Shell
