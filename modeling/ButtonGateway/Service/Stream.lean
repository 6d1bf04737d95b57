import ButtonGateway.Session
import Std.Async.DNS
import Std.Async.TCP
import Std.Async.Timer

namespace ButtonGateway.Service

open Std.Async

abbrev Stream := TCP.Socket.Client

def chunkSize : UInt64 := 4096

namespace Stream

def socketAddress (port : UInt16) : Std.Net.IPAddr → Std.Net.SocketAddress
  | .v4 address => .v4 ⟨address, port⟩
  | .v6 address => .v6 ⟨address, port⟩

def resolve (host : String) (port : UInt16) : IO Std.Net.IPAddr := do
  let reason ← try
      match (← (DNS.getAddrInfo host (toString port)).block)[0]? with
      | some address => return address
      | none => pure "no addresses"
    catch failure => pure (toString failure)
  throw (IO.userError ("No such daemon host " ++ host ++ ": " ++ reason))

def dial (host : String) (port : UInt16) : IO Stream := do
  let address ← resolve host port
  let stream ← TCP.Socket.Client.mk
  try (stream.connect (socketAddress port address)).block
  catch failure =>
    throw (IO.userError ("Failed to connect to daemon at " ++ address.toString ++ ":" ++
      toString port ++ ": " ++ toString failure))
  stream.noDelay
  return stream

def write (stream : Stream) (bytes : Wire.Bytes) : IO Unit :=
  (stream.send bytes.toByteArray).block

/-- Writes a command; the failure is returned, if there is one. -/
def send (stream : Stream) (command : Daemon.Command) : IO (Option CommandFailure) := do
  let failed (fault : Fault) : Option CommandFailure := some ⟨command.opcode, fault⟩
  match command.frame with
  | .error fault => return failed fault
  | .ok frame =>
    try
      stream.write frame
      return none
    catch failure => return failed (.stream (toString failure))

/-- The next bytes; none stand for the end of the stream. -/
def read (stream : Stream) : IO (Option ByteArray) := (stream.recv? chunkSize).block

/-- Ends a wait for bytes that runs elsewhere. -/
def cancel (stream : Stream) : IO Unit := stream.native.cancelRecv

def selectable {α : Type} (stream : Stream) (tell : Option ByteArray → α) : Selectable α :=
  .case (stream.recvSelector chunkSize) fun chunk => pure (tell chunk)

end Stream

/-- Waits for the first of several things, for so many milliseconds at most. -/
def await {α : Type} (sources : List (Selectable α)) (milliseconds : Nat) (late : α) : IO α :=
  Async.block (do
    let timer ← Selector.sleep (Std.Time.Millisecond.Offset.ofNat milliseconds)
    Selectable.one (sources.toArray.push (.case timer fun () => pure late)))

end ButtonGateway.Service
