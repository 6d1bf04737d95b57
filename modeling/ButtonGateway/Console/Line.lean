import ButtonGateway.Daemon.Command
import ButtonGateway.Text.Numeral
import ButtonGateway.Text.Split

namespace ButtonGateway.Console

open Daemon

/-- The kinds of argument, by the type of their values. -/
inductive Argument : Type → Type 1 where
  | address : Argument Address
  | identifier : Argument UInt32
  | latency : Argument LatencyMode
  | time : Argument Int16

inductive Refusal where
  | unknown (word : String)
  | missing (command argument : String)
  | invalid (command argument word : String)
  | address (command : String) (fault : Fault)
  deriving DecidableEq, Repr

def Refusal.message : Refusal → String
  | .unknown word => "Unknown command '" ++ word ++ "', type help for a list"
  | .missing command argument => command ++ ": missing <" ++ argument ++ ">"
  | .invalid command argument word =>
    command ++ ": invalid <" ++ argument ++ "> '" ++ word ++ "'"
  | .address command fault => command ++ ": " ++ fault.message

/-- Drops any number of words `latency` at the end of a text that is given in reverse. -/
def dropLatency : List Char → List Char
  | 'y' :: 'c' :: 'n' :: 'e' :: 't' :: 'a' :: 'l' :: rest => dropLatency rest
  | chars => chars

/-- Reads a latency mode; letter case does not matter, and `latency` may follow the mode. -/
def latency? (word : List Char) : Option LatencyMode :=
  match String.ofList (dropLatency (word.map Char.toLower).reverse).reverse with
  | "normal" => some .normal
  | "low" => some .low
  | "high" => some .high
  | _ => none

namespace Argument

/-- What a refusal calls an argument. -/
def name {α : Type} : Argument α → String
  | .address => "address"
  | .identifier => "id"
  | .latency => "latency_mode"
  | .time => "auto_disconnect_time"

def read {α : Type} (argument : Argument α) (command : String) (word : List Char) :
    Except Refusal α :=
  let invalid := Refusal.invalid command argument.name (String.ofList word)
  match argument with
  | .address => (Address.parse (String.ofList word)).mapError (.address command)
  | .identifier => (Text.Decimal.uint32 word).mapError fun _ => invalid
  | .latency =>
    match latency? word with
    | some mode => .ok mode
    | none => .error invalid
  | .time => (Text.Decimal.int16 word).mapError fun _ => invalid

end Argument

/-- A sequence of arguments, by the type of their records. -/
inductive Arguments : Type → Type 1 where
  | nil : Arguments Unit
  | cons {α β : Type} (argument : Argument α) (rest : Arguments β) : Arguments (α × β)

/-- Reads arguments from left to right; the first one that is missing or invalid decides. -/
def Arguments.read {α : Type} (command : String) :
    Arguments α → List (List Char) → Except Refusal α
  | .nil, _ => .ok ()
  | .cons argument _, [] => .error (.missing command argument.name)
  | .cons argument rest, word :: words =>
    match argument.read command word with
    | .error refusal => .error refusal
    | .ok value => (rest.read command words).map fun others => (value, others)

/-- What follows the name of a command, and the command that it makes. -/
structure Form where
  {Record : Type}
  arguments : Arguments Record
  make : Record → Command

/-- The commands that can be typed. A channel opened here is fast and stays open, and scanners and
wizards have the number zero. -/
def form? (name : String) : Option Form :=
  match name with
  | "getInfo" => some ⟨.nil, fun () => .getInfo⟩
  | "startScanWizard" => some ⟨.nil, fun () => .createWizard 0⟩
  | "cancelScanWizard" => some ⟨.nil, fun () => .cancelWizard 0⟩
  | "startScan" => some ⟨.nil, fun () => .createScanner 0⟩
  | "stopScan" => some ⟨.nil, fun () => .removeScanner 0⟩
  | "connect" => some ⟨.cons .address (.cons .identifier .nil), fun (address, channel, ()) =>
      .createChannel channel address .normal Command.neverDisconnect⟩
  | "disconnect" => some ⟨.cons .identifier .nil, fun (channel, ()) => .removeChannel channel⟩
  | "changeModeParameters" =>
    some ⟨.cons .identifier (.cons .latency (.cons .time .nil)), fun (channel, mode, time, ()) =>
      .changeMode channel mode time⟩
  | "forceDisconnect" => some ⟨.cons .address .nil, fun (address, ()) => .forceDisconnect address⟩
  | "getButtonInfo" => some ⟨.cons .address .nil, fun (address, ()) => .getButtonInfo address⟩
  | "createBatteryStatusListener" =>
    some ⟨.cons .address (.cons .identifier .nil), fun (address, listener, ()) =>
      .createBatteryListener listener address⟩
  | "removeBatteryStatusListener" => some ⟨.cons .identifier .nil, fun (listener, ()) =>
      .removeBatteryListener listener⟩
  | "delete" => some ⟨.cons .address .nil, fun (address, ()) => .deleteButton address⟩
  | "ping" => some ⟨.cons .identifier .nil, fun (token, ()) => .ping token⟩
  | _ => none

inductive Line where
  | blank
  | help
  | quit
  | send (command : Command)
  deriving DecidableEq, Repr

def Line.ofWords : List (List Char) → Except Refusal Line
  | [] => .ok .blank
  | word :: words =>
    match String.ofList word with
    | "help" => .ok .help
    | "quit" => .ok .quit
    | name =>
      match form? name with
      | some form => (form.arguments.read name words).map fun record => .send (form.make record)
      | none => .error (.unknown name)

def Line.parse (line : String) : Except Refusal Line := ofWords (Text.words line.toList)

end ButtonGateway.Console
