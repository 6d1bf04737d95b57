import ButtonGateway.Daemon.Vocabulary
import ButtonGateway.Wire.Frame
import ButtonGateway.Wire.Packet

namespace ButtonGateway.Daemon

inductive Command where
  | getInfo
  | createScanner (scanner : UInt32)
  | removeScanner (scanner : UInt32)
  | createChannel (channel : UInt32) (address : Address) (latency : LatencyMode)
      (autoDisconnect : Int16)
  | removeChannel (channel : UInt32)
  | forceDisconnect (address : Address)
  | changeMode (channel : UInt32) (latency : LatencyMode) (autoDisconnect : Int16)
  | ping (token : UInt32)
  | getButtonInfo (address : Address)
  | createWizard (wizard : UInt32)
  | cancelWizard (wizard : UInt32)
  | deleteButton (address : Address)
  | createBatteryListener (listener : UInt32) (address : Address)
  | removeBatteryListener (listener : UInt32)
  deriving DecidableEq, Repr

namespace Command

open Wire

def neverDisconnect : Int16 := 511

/-- Opens the channel of a button slot, under the slot's own number. -/
def connectSlot (slot : UInt8) (address : Address) : Command :=
  .createChannel slot.toUInt32 address .normal neverDisconnect

def identifier : Layout (UInt32 × Unit) := .cons .u32 .nil

def target : Layout (Address × Unit) := .cons .address .nil

def channelLayout : Layout (UInt32 × Address × LatencyMode × Int16 × Unit) :=
  .cons .u32 (.cons .address (.cons (.code LatencyMode) (.cons .i16 .nil)))

def modeLayout : Layout (UInt32 × LatencyMode × Int16 × Unit) :=
  .cons .u32 (.cons (.code LatencyMode) (.cons .i16 .nil))

def listenerLayout : Layout (UInt32 × Address × Unit) := .cons .u32 (.cons .address .nil)

def packet : Command → Packet
  | .getInfo => ⟨0, .nil, ()⟩
  | .createScanner scanner => ⟨1, identifier, (scanner, ())⟩
  | .removeScanner scanner => ⟨2, identifier, (scanner, ())⟩
  | .createChannel channel address latency autoDisconnect =>
    ⟨3, channelLayout, (channel, address, latency, autoDisconnect, ())⟩
  | .removeChannel channel => ⟨4, identifier, (channel, ())⟩
  | .forceDisconnect address => ⟨5, target, (address, ())⟩
  | .changeMode channel latency autoDisconnect =>
    ⟨6, modeLayout, (channel, latency, autoDisconnect, ())⟩
  | .ping token => ⟨7, identifier, (token, ())⟩
  | .getButtonInfo address => ⟨8, target, (address, ())⟩
  | .createWizard wizard => ⟨9, identifier, (wizard, ())⟩
  | .cancelWizard wizard => ⟨10, identifier, (wizard, ())⟩
  | .deleteButton address => ⟨11, target, (address, ())⟩
  | .createBatteryListener listener address => ⟨12, listenerLayout, (listener, address, ())⟩
  | .removeBatteryListener listener => ⟨13, identifier, (listener, ())⟩

def shape? (opcode : UInt8) : Option (Shape Command) :=
  match opcode with
  | 0 => some ⟨.nil, fun () => .getInfo⟩
  | 1 => some ⟨identifier, fun (scanner, ()) => .createScanner scanner⟩
  | 2 => some ⟨identifier, fun (scanner, ()) => .removeScanner scanner⟩
  | 3 => some ⟨channelLayout, fun (channel, address, latency, autoDisconnect, ()) =>
      .createChannel channel address latency autoDisconnect⟩
  | 4 => some ⟨identifier, fun (channel, ()) => .removeChannel channel⟩
  | 5 => some ⟨target, fun (address, ()) => .forceDisconnect address⟩
  | 6 => some ⟨modeLayout, fun (channel, latency, autoDisconnect, ()) =>
      .changeMode channel latency autoDisconnect⟩
  | 7 => some ⟨identifier, fun (token, ()) => .ping token⟩
  | 8 => some ⟨target, fun (address, ()) => .getButtonInfo address⟩
  | 9 => some ⟨identifier, fun (wizard, ()) => .createWizard wizard⟩
  | 10 => some ⟨identifier, fun (wizard, ()) => .cancelWizard wizard⟩
  | 11 => some ⟨target, fun (address, ()) => .deleteButton address⟩
  | 12 => some ⟨listenerLayout, fun (listener, address, ()) =>
      .createBatteryListener listener address⟩
  | 13 => some ⟨identifier, fun (listener, ()) => .removeBatteryListener listener⟩
  | _ => none

def opcode (command : Command) : UInt8 := command.packet.opcode

def body (command : Command) : Bytes := command.packet.bytes

def frame (command : Command) : Except Fault Bytes := Frame.encode command.body

/-- The bytes that commands are written as. No body of a command is too long for a frame. -/
def written (commands : List Command) : Bytes :=
  commands.flatMap fun command => Frame.framed command.body

def read : Bytes → Reading Command
  | [] => (.error .emptyPacket, [])
  | opcode :: rest =>
    match shape? opcode with
    | some shape => shape.read rest
    | none => (.error (.unknownCommand opcode), rest)

/-- The command that a body holds; bytes behind it do not count. -/
def decode (body : Bytes) : Except Fault Command := (read body).1

end Command

end ButtonGateway.Daemon
