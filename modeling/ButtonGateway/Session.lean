import ButtonGateway.Button
import ButtonGateway.Daemon.Command
import ButtonGateway.Gesture.Tracker
import ButtonGateway.Notice
/-!
A session with the daemon. It runs in epochs: at the beginning of each the daemon is asked for its
state and a broken link to the broker is repaired, then notices are handled until the epoch is over.
An epoch that is due to end goes on while a hold is pending, so that no hold is torn apart.
Times are in seconds.
-/
namespace ButtonGateway

open Daemon

inductive Effect where
  | announce (online : Bool)
  | publish (slot : UInt8) (gesture : Gesture)
  | reconnect
  | command (request : Command)
  deriving DecidableEq, Repr

namespace Effect

def command? : Effect → Option Command
  | .command request => some request
  | .announce _ | .publish _ _ | .reconnect => none

def commands (effects : List Effect) : List Command := effects.filterMap command?

def written (effects : List Effect) : Wire.Bytes := Command.written (commands effects)

end Effect

/-- The link to the broker as a session sees it. -/
structure Publisher where
  up : Bool
  /-- Whether a repair brings it up. -/
  upAfterReconnect : Bool := true
  reconnectTime : Nat := 0
  deriving DecidableEq, Repr

structure Surroundings where
  clock : Nat
  publisher : Publisher
  /-- Why commands cannot be written, if they cannot. -/
  broken : Option Fault
  deriving DecidableEq, Repr

/-- A command that could not be written. -/
structure CommandFailure where
  opcode : UInt8
  fault : Fault
  deriving DecidableEq, Repr

def CommandFailure.text (failure : CommandFailure) : String :=
  "Failed to write command opcode " ++ toString failure.opcode.toNat ++ " to daemon: " ++
    failure.fault.message

/-- The failure in words, as what ended a session. -/
def CommandFailure.message (failure : CommandFailure) : String :=
  "Daemon command failed: " ++ failure.text

inductive Stage where
  | starting
  | dispatching
  | epochTimedOut
  | fatal (reason : String)
  deriving DecidableEq, Repr

def Stage.name : Stage → String
  | .starting => "Starting"
  | .dispatching => "Dispatching"
  | .epochTimedOut => "EpochTimedOut"
  | .fatal _ => "Fatal"

structure Session where
  addresses : PerSlot (Option Address)
  epochLength : Nat
  tracker : GestureTracker
  stage : Stage
  /-- How many epochs have begun. -/
  epoch : Nat
  /-- How many notices this epoch has handled. -/
  packets : Nat
  /-- When the epoch is due to end. -/
  deadline : Nat
  deriving DecidableEq, Repr

namespace Session

/-- The longest epoch: 366 days. -/
def maxEpochLength : Nat := 366 * 24 * 3600

def create (now : Nat) (addresses : PerSlot (Option Address)) (epochLength : Nat) : Session where
  addresses
  epochLength
  tracker := .start
  stage := .starting
  epoch := 0
  packets := 0
  deadline := now

/-- Writes commands to the daemon until one fails. -/
def send (around : Surroundings) : List Command → Except CommandFailure Unit × List Effect
  | [] => (.ok (), [])
  | command :: rest =>
    match around.broken with
    | some fault => (.error ⟨command.opcode, fault⟩, [])
    | none =>
      let others := send around rest
      (others.1, .command command :: others.2)

/-- Repairs the link to the broker if it is down. -/
def repair (around : Surroundings) : Surroundings × List Effect :=
  let publisher := around.publisher
  if publisher.up then (around, [])
  else
    ({ around with
      clock := around.clock + publisher.reconnectTime
      publisher := { publisher with up := publisher.upAfterReconnect } }, [.reconnect])

theorem clock_le_repair (around : Surroundings) : around.clock ≤ (repair around).1.clock := by
  cases up : around.publisher.up <;> simp [repair, up]

def enterEpoch (session : Session) (now : Nat) : Session :=
  { session with
    stage := .dispatching
    epoch := session.epoch + 1
    packets := 0
    deadline := now + min session.epochLength maxEpochLength }

/-- Writes commands and then begins an epoch, unless a command fails. -/
def openEpoch (session : Session) (around : Surroundings) (commands : List Command) :
    Except CommandFailure Session × Surroundings × List Effect :=
  match send around commands with
  | (.error failure, effects) => (.error failure, around, effects)
  | (.ok (), effects) =>
    let (after, repairs) := repair around
    (.ok (session.enterEpoch after.clock), after, effects ++ repairs)

/-- The commands that open a channel for each slot with an address, in ascending order. -/
def connectCommands (session : Session) : List Command :=
  Slot.all.filterMap fun (slot : Slot) =>
    (session.addresses.get slot).map (Command.connectSlot slot.byte)

/-- The start: the gateway is not online before the daemon has answered. -/
def start (session : Session) (around : Surroundings) :
    Except CommandFailure Session × Surroundings × List Effect :=
  let (outcome, after, effects) := session.openEpoch around (.getInfo :: session.connectCommands)
  (outcome, after, .announce false :: effects)

def refresh (session : Session) (around : Surroundings) :
    Except CommandFailure Session × Surroundings × List Effect :=
  session.openEpoch around [.getInfo]

/-- What a notice makes the session do, once it is known not to be fatal. -/
def dispatch (session : Session) (notice : Notice) : Session × List Effect :=
  match notice.kind with
  | .ping | .connect => (session, [])
  | .info => (session, [.announce true])
  | .status =>
    if notice.status = Enumeration.code ConnectionStatus.disconnected then
      ({ session with tracker := (session.tracker.cancelHold notice.slot).1 }, [])
    else (session, [])
  | .upDown =>
    match (Enumeration.ofCode? notice.status : Option Click) with
    | some made =>
      let (tracker, gesture) := session.tracker.apply notice.slot made
      ({ session with tracker }, gesture.toList.map (.publish notice.slot))
    | none => (session, [])

def consume (session : Session) (notice : Notice) : Session × List Effect :=
  let counted := { session with packets := session.packets + 1 }
  if notice.isFatal then ({ counted with stage := .fatal notice.text }, [])
  else counted.dispatch notice

def isOver (session : Session) (now : Nat) : Bool :=
  decide (session.deadline ≤ now) && !session.tracker.holdsPending

/-- What a session does next in an epoch. -/
inductive Turn where
  /-- The epoch is over, or no more notices can come. -/
  | ended (stage : Stage)
  /-- The first notice is handled; the others stay. -/
  | handled (notice : Notice) (rest : List Notice)
  | idle
  deriving DecidableEq, Repr

/-- The choice of the next turn: the end of the epoch comes before any notice. -/
def turn (session : Session) (now : Nat) (waiting : List Notice) (closed : Bool) : Turn :=
  if session.isOver now then .ended .epochTimedOut
  else match waiting with
    | notice :: rest => .handled notice rest
    | [] => if closed then .ended (.fatal "event channel closed") else .idle

end Session

end ButtonGateway
