import ButtonGateway.Gateway
import ButtonGateway.Settings

namespace ButtonGateway

namespace Backoff

/-- The first pause in milliseconds. -/
def shortest : UInt64 := 100

def longest : UInt64 := 60000

/-- The largest number of doublings that is computed; long before it the longest pause applies. -/
def maxDoublings : UInt32 := 30

/-- The product of two numbers, or the greatest number if the product is beyond it. -/
def saturatingMul (left right : UInt64) : UInt64 :=
  if left.toNat * right.toNat < UInt64.size then left * right else 18446744073709551615

/-- How often the first pause is doubled before an attempt that has a number. -/
def doublings (attempt : UInt32) : UInt32 := min (attempt - 1) maxDoublings

/-- The pause before an attempt in milliseconds. Attempts are counted from one. -/
def delay (attempt : UInt32) : UInt64 :=
  if attempt = 0 then 0
  else min (saturatingMul shortest (1 <<< (doublings attempt).toUInt64)) longest

/-- The number of the next attempt; it stays at the greatest number. -/
def next (attempt : UInt32) : UInt32 :=
  if attempt = 4294967295 then attempt else attempt + 1

end Backoff

/-- The course of a connection that was opened. -/
structure Visit where
  /-- How long it took to open it, in seconds. -/
  opening : Nat
  /-- Whether the link to the broker is up when it has been opened. -/
  up : Bool
  /-- How many commands the daemon takes, and why it takes no more, if there are not to be more. -/
  patience : Option (Nat × Fault) := none
  happenings : List Happening
  deriving DecidableEq, Repr

inductive Attempt where
  | refused
  | served (visit : Visit)
  deriving DecidableEq, Repr

/-- What is done before the command that a daemon does not take which takes only so many, and that
command, if it comes to it. -/
def Effect.taken : Nat → List Effect → List Effect × Option Daemon.Command
  | _, [] => ([], none)
  | 0, .command request :: _ => ([], some request)
  | count + 1, .command request :: rest =>
    let others := taken count rest
    (.command request :: others.1, others.2)
  | count, effect :: rest =>
    let others := taken count rest
    (effect :: others.1, others.2)

/-- What supervision remembers between attempts. -/
structure Supervision where
  /-- The number of the last attempt. -/
  attempt : UInt32
  publisher : Publisher
  deriving DecidableEq, Repr

/-- What all connections have in common. -/
structure Plan where
  filter : ClickFilter
  buttons : SlotTable
  epochLength : Nat
  deriving DecidableEq, Repr

def Plan.ofSettings (settings : Settings) : Plan :=
  ⟨settings.filter, settings.slotTable, settings.epochLength.toNat⟩

def Plan.start (plan : Plan) (publisher : Publisher) : Gateway × List Effect :=
  Gateway.start plan.filter plan.buttons plan.epochLength publisher

namespace Supervision

/-- A connection that lasted for so many seconds makes the counting of attempts begin anew. -/
def healthyRun : Nat := 60

inductive Ending where
  /-- The daemon is gone, so many seconds after the attempt began if there was a connection; the
  next attempt follows after a pause in milliseconds. -/
  | again (lasted : Option Nat) (next : Supervision) (pause : UInt64)
  | running (gateway : Gateway)
  | failed (failure : CommandFailure)
  deriving DecidableEq, Repr

/-- Counts the attempt that has just ended, after `lasted` seconds if there was a connection. -/
def count (attempt : UInt32) (lasted : Option Nat) : UInt32 :=
  match lasted with
  | some seconds => Backoff.next (if healthyRun ≤ seconds then 0 else attempt)
  | none => Backoff.next attempt

/-- What is remembered after an attempt that leaves the publisher behind, and the pause. -/
def again (supervision : Supervision) (publisher : Publisher) (lasted : Option Nat) : Ending :=
  let attempt := count supervision.attempt lasted
  .again lasted ⟨attempt, publisher⟩ (Backoff.delay attempt)

/-- How an attempt ended that found nobody. -/
def refused (supervision : Supervision) : Ending := supervision.again supervision.publisher none

/-- How an attempt stands whose connection is given and was opened after so many seconds. -/
def standing (supervision : Supervision) (opening : Nat) (gateway : Gateway) : Ending :=
  match gateway.state with
  | .running => .running gateway
  | .failed failure => .failed failure
  | .ended _ =>
    let around := gateway.station.around
    supervision.again around.publisher (some (opening + around.clock))

/-- Opens a connection when the link to the broker is up, or when it is not. -/
def opened (plan : Plan) (supervision : Supervision) (up : Bool) : Gateway × List Effect :=
  plan.start { supervision.publisher with up }

/-- The connection of a visit and what is done on it, if the daemon takes every command. -/
def attended (plan : Plan) (supervision : Supervision) (visit : Visit) : Gateway × List Effect :=
  let begun := supervision.opened plan visit.up
  let ran := begun.1.run visit.happenings
  (ran.1, begun.2 ++ ran.2)

/-- One visit, which ends with the first command that the daemon does not take. -/
def visited (plan : Plan) (supervision : Supervision) (visit : Visit) : Ending × List Effect :=
  let (gateway, effects) := supervision.attended plan visit
  match visit.patience with
  | none => (supervision.standing visit.opening gateway, effects)
  | some (count, fault) =>
    match Effect.taken count effects with
    | (done, some request) => (.failed ⟨request.opcode, fault⟩, done)
    | (_, none) => (supervision.standing visit.opening gateway, effects)

def serve (plan : Plan) (supervision : Supervision) : Attempt → Ending × List Effect
  | .refused => (supervision.refused, [])
  | .served visit => supervision.visited plan visit

/-- Attempts one after another, each with its effects, as long as the daemon is gone after them. -/
def run (plan : Plan) (supervision : Supervision) : List Attempt → List (Ending × List Effect)
  | [] => []
  | attempt :: rest =>
    let served := supervision.serve plan attempt
    match served.1 with
    | .again _ next _ => served :: run plan next rest
    | .running _ | .failed _ => [served]

end Supervision

end ButtonGateway
