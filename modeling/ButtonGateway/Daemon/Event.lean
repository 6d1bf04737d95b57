import ButtonGateway.Daemon.Vocabulary
import ButtonGateway.Wire.Packet

namespace ButtonGateway.Daemon

/-- The four packets that report a button, which differ in the clicks that they tell apart. -/
inductive ButtonClass where
  | upOrDown
  | clickOrHold
  | singleOrDoubleClick
  | singleOrDoubleClickOrHold
  deriving DecidableEq, Repr

namespace ButtonClass

def opcode : ButtonClass → UInt8
  | .upOrDown => 4
  | .clickOrHold => 5
  | .singleOrDoubleClick => 6
  | .singleOrDoubleClickOrHold => 7

def ofOpcode? (opcode : UInt8) : Option ButtonClass :=
  match opcode with
  | 4 => some .upOrDown
  | 5 => some .clickOrHold
  | 6 => some .singleOrDoubleClick
  | 7 => some .singleOrDoubleClickOrHold
  | _ => none

/-- The name under which a class is shown. -/
def name : ButtonClass → String
  | .upOrDown => "ButtonUpOrDown"
  | .clickOrHold => "ButtonClickOrHold"
  | .singleOrDoubleClick => "ButtonSingleOrDoubleClick"
  | .singleOrDoubleClickOrHold => "ButtonSingleOrDoubleClickOrHold"

/-- The name under which settings configure a class. -/
def key : ButtonClass → String
  | .upOrDown => "up_or_down"
  | .clickOrHold => "click_or_hold"
  | .singleOrDoubleClick => "single_or_double_click"
  | .singleOrDoubleClickOrHold => "single_or_double_click_or_hold"

def all : List ButtonClass :=
  [.upOrDown, .clickOrHold, .singleOrDoubleClick, .singleOrDoubleClickOrHold]

end ButtonClass

/-- A button seen by a scanner. -/
structure Advertisement where
  scanner : UInt32
  address : Address
  name : String
  signal : Int8
  isPrivate : Bool
  alreadyVerified : Bool
  connectedHere : Bool
  connectedElsewhere : Bool
  deriving DecidableEq, Repr

structure Press where
  channel : UInt32
  click : Click
  wasQueued : Bool
  /-- How many seconds ago it happened. -/
  age : UInt32
  deriving DecidableEq, Repr

structure DaemonInfo where
  controller : ControllerState
  address : Address
  addressKind : AddressKind
  maxPending : UInt8
  maxConnected : Int16
  pending : UInt8
  /-- Whether there is no space for another connection. -/
  full : Bool
  verified : List Address
  deriving DecidableEq, Repr

/-- What the daemon knows of one verified button. -/
structure ButtonInfo where
  address : Address
  uuid : Wire.Octets 16
  color : String
  serial : String
  version : UInt8
  firmware : UInt32
  deriving DecidableEq, Repr

inductive Event where
  | advertisement (seen : Advertisement)
  | channelCreated (channel : UInt32) (error : ChannelError) (status : ConnectionStatus)
  | statusChanged (channel : UInt32) (status : ConnectionStatus) (reason : DisconnectReason)
  | channelRemoved (channel : UInt32) (reason : RemovalReason)
  | button (kind : ButtonClass) (press : Press)
  | newVerifiedButton (address : Address)
  | info (daemon : DaemonInfo)
  | noSpace (maxConnected : UInt8)
  | gotSpace (maxConnected : UInt8)
  | controllerChanged (state : ControllerState)
  | pong (token : UInt32)
  | buttonInfo (known : ButtonInfo)
  | wizardFoundPrivate (wizard : UInt32)
  | wizardFoundPublic (wizard : UInt32) (address : Address) (name : String)
  | wizardConnected (wizard : UInt32)
  | wizardCompleted (wizard : UInt32) (result : WizardResult)
  | buttonDeleted (address : Address) (byThisClient : Bool)
  | battery (listener : UInt32) (percentage : Int8) (timestamp : Int64)
  /-- An opcode beyond those known here. -/
  | unknown (opcode : UInt8)
  deriving DecidableEq, Repr

namespace Event

open Wire

def identifier : Layout (UInt32 × Unit) := .cons .u32 .nil

def small : Layout (UInt8 × Unit) := .cons .u8 .nil

def advertisementLayout :
    Layout (UInt32 × Address × String × Int8 × Bool × Bool × Bool × Bool × Unit) :=
  .cons .u32 (.cons .address (.cons .text (.cons .i8 (.cons .flag (.cons .flag (.cons .flag
    (.cons .flag .nil)))))))

def channelCreatedLayout : Layout (UInt32 × ChannelError × ConnectionStatus × Unit) :=
  .cons .u32 (.cons (.code ChannelError) (.cons (.code ConnectionStatus) .nil))

def statusChangedLayout : Layout (UInt32 × ConnectionStatus × DisconnectReason × Unit) :=
  .cons .u32 (.cons (.code ConnectionStatus) (.cons (.code DisconnectReason) .nil))

def channelRemovedLayout : Layout (UInt32 × RemovalReason × Unit) :=
  .cons .u32 (.cons (.code RemovalReason) .nil)

def pressLayout : Layout (UInt32 × Click × Bool × UInt32 × Unit) :=
  .cons .u32 (.cons (.code Click) (.cons .flag (.cons .u32 .nil)))

def addressLayout : Layout (Address × Unit) := .cons .address .nil

def infoLayout : Layout (ControllerState × Address × AddressKind × UInt8 × Int16 × UInt8 × Bool ×
    List Address × Unit) :=
  .cons (.code ControllerState) (.cons .address (.cons (.code AddressKind) (.cons .u8 (.cons .i16
    (.cons .u8 (.cons .flag (.cons .addresses .nil)))))))

def controllerLayout : Layout (ControllerState × Unit) := .cons (.code ControllerState) .nil

def buttonInfoLayout :
    Layout (Address × Octets 16 × String × String × UInt8 × UInt32 × Unit) :=
  .cons .address (.cons (.octets 16) (.cons .text (.cons .text (.cons .u8 (.cons .u32 .nil)))))

def foundPublicLayout : Layout (UInt32 × Address × String × Unit) :=
  .cons .u32 (.cons .address (.cons .text .nil))

def completedLayout : Layout (UInt32 × WizardResult × Unit) :=
  .cons .u32 (.cons (.code WizardResult) .nil)

def deletedLayout : Layout (Address × Bool × Unit) := .cons .address (.cons .flag .nil)

def batteryLayout : Layout (UInt32 × Int8 × Int64 × Unit) :=
  .cons .u32 (.cons .i8 (.cons .i64 .nil))

/-- An event as an opcode and a record. Of an unknown event only the opcode is kept. -/
def packet : Event → Packet
  | .advertisement seen => ⟨0, advertisementLayout,
      (seen.scanner, seen.address, seen.name, seen.signal, seen.isPrivate, seen.alreadyVerified,
        seen.connectedHere, seen.connectedElsewhere, ())⟩
  | .channelCreated channel error status => ⟨1, channelCreatedLayout, (channel, error, status, ())⟩
  | .statusChanged channel status reason => ⟨2, statusChangedLayout, (channel, status, reason, ())⟩
  | .channelRemoved channel reason => ⟨3, channelRemovedLayout, (channel, reason, ())⟩
  | .button kind press => ⟨kind.opcode, pressLayout,
      (press.channel, press.click, press.wasQueued, press.age, ())⟩
  | .newVerifiedButton address => ⟨8, addressLayout, (address, ())⟩
  | .info daemon => ⟨9, infoLayout,
      (daemon.controller, daemon.address, daemon.addressKind, daemon.maxPending,
        daemon.maxConnected, daemon.pending, daemon.full, daemon.verified, ())⟩
  | .noSpace maxConnected => ⟨10, small, (maxConnected, ())⟩
  | .gotSpace maxConnected => ⟨11, small, (maxConnected, ())⟩
  | .controllerChanged state => ⟨12, controllerLayout, (state, ())⟩
  | .pong token => ⟨13, identifier, (token, ())⟩
  | .buttonInfo known => ⟨14, buttonInfoLayout,
      (known.address, known.uuid, known.color, known.serial, known.version, known.firmware, ())⟩
  | .wizardFoundPrivate wizard => ⟨15, identifier, (wizard, ())⟩
  | .wizardFoundPublic wizard address name => ⟨16, foundPublicLayout, (wizard, address, name, ())⟩
  | .wizardConnected wizard => ⟨17, identifier, (wizard, ())⟩
  | .wizardCompleted wizard result => ⟨18, completedLayout, (wizard, result, ())⟩
  | .buttonDeleted address byThisClient => ⟨19, deletedLayout, (address, byThisClient, ())⟩
  | .battery listener percentage timestamp => ⟨20, batteryLayout,
      (listener, percentage, timestamp, ())⟩
  | .unknown opcode => ⟨opcode, .nil, ()⟩

def pressShape (kind : ButtonClass) : Shape Event :=
  ⟨pressLayout, fun (channel, made, wasQueued, age, ()) =>
    .button kind ⟨channel, made, wasQueued, age⟩⟩

/-- What follows each opcode. An opcode that is not known here is followed by nothing. -/
def shape (opcode : UInt8) : Shape Event :=
  match opcode with
  | 0 => ⟨advertisementLayout, fun (scanner, address, name, signal, isPrivate, alreadyVerified,
      connectedHere, connectedElsewhere, ()) =>
      .advertisement ⟨scanner, address, name, signal, isPrivate, alreadyVerified, connectedHere,
        connectedElsewhere⟩⟩
  | 1 => ⟨channelCreatedLayout, fun (channel, error, status, ()) =>
      .channelCreated channel error status⟩
  | 2 => ⟨statusChangedLayout, fun (channel, status, reason, ()) =>
      .statusChanged channel status reason⟩
  | 3 => ⟨channelRemovedLayout, fun (channel, reason, ()) => .channelRemoved channel reason⟩
  | 4 => pressShape .upOrDown
  | 5 => pressShape .clickOrHold
  | 6 => pressShape .singleOrDoubleClick
  | 7 => pressShape .singleOrDoubleClickOrHold
  | 8 => ⟨addressLayout, fun (address, ()) => .newVerifiedButton address⟩
  | 9 => ⟨infoLayout, fun (controller, address, addressKind, maxPending, maxConnected, pending,
      full, verified, ()) =>
      .info ⟨controller, address, addressKind, maxPending, maxConnected, pending, full, verified⟩⟩
  | 10 => ⟨small, fun (maxConnected, ()) => .noSpace maxConnected⟩
  | 11 => ⟨small, fun (maxConnected, ()) => .gotSpace maxConnected⟩
  | 12 => ⟨controllerLayout, fun (state, ()) => .controllerChanged state⟩
  | 13 => ⟨identifier, fun (token, ()) => .pong token⟩
  | 14 => ⟨buttonInfoLayout, fun (address, uuid, color, serial, version, firmware, ()) =>
      .buttonInfo ⟨address, uuid, color, serial, version, firmware⟩⟩
  | 15 => ⟨identifier, fun (wizard, ()) => .wizardFoundPrivate wizard⟩
  | 16 => ⟨foundPublicLayout, fun (wizard, address, name, ()) =>
      .wizardFoundPublic wizard address name⟩
  | 17 => ⟨identifier, fun (wizard, ()) => .wizardConnected wizard⟩
  | 18 => ⟨completedLayout, fun (wizard, result, ()) => .wizardCompleted wizard result⟩
  | 19 => ⟨deletedLayout, fun (address, byThisClient, ()) => .buttonDeleted address byThisClient⟩
  | 20 => ⟨batteryLayout, fun (listener, percentage, timestamp, ()) =>
      .battery listener percentage timestamp⟩
  | other => ⟨.nil, fun () => .unknown other⟩

def opcode (event : Event) : UInt8 := event.packet.opcode

def body (event : Event) : Bytes := event.packet.bytes

def read : Bytes → Reading Event
  | [] => (.error .emptyPacket, [])
  | opcode :: rest => (shape opcode).read rest

/-- The event that a body holds; bytes behind it do not count. -/
def decode (body : Bytes) : Except Fault Event := (read body).1

end Event

end ButtonGateway.Daemon
