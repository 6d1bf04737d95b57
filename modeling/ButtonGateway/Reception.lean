import ButtonGateway.Notice.OfEvent
import ButtonGateway.Wire.Frame
/-!
Reception: the daemon's bytes come in, notices for the session go out. Silence that lasts for the
timeout gives a sign of life, and the end of the stream gives one last notice. Times are in seconds.
-/
namespace ButtonGateway

open Wire

inductive ReceptionEnd where
  /-- The stream ended between two packets. -/
  | closed
  | unreadable (fault : Fault)
  /-- Nobody takes the notices any more. -/
  | unheard
  deriving DecidableEq, Repr

def ReceptionEnd.message : ReceptionEnd → String
  | .closed => "Daemon closed the connection"
  | .unreadable fault => "Failed to read from daemon: " ++ fault.message
  | .unheard => "Event channel closed by the control loop"

structure Reception where
  filter : ClickFilter
  timeout : Nat
  timeout_pos : 0 < timeout
  /-- The bytes of a packet that is not complete yet. -/
  incomplete : Bytes
  /-- When the last packet or sign of life was handled. -/
  handledAt : Nat
  /-- Whether somebody takes the notices. -/
  heard : Bool
  ended : Option ReceptionEnd
  deriving DecidableEq, Repr

namespace Reception

/-- The silence after which a daemon is asked for a sign of life, unless told otherwise. -/
def standardTimeout : Nat := 60

def start (filter : ClickFilter) (now timeout : Nat) (timeout_pos : 0 < timeout) : Reception :=
  ⟨filter, timeout, timeout_pos, [], now, true, none⟩

/-- What stands for a silence. -/
def silence : Notice := Notice.ping "receive timeout"

/-- Hands a notice over. Where nobody takes it, the reception ends. -/
def forward (reception : Reception) (notice : Notice) : Reception × List Notice :=
  if reception.heard then (reception, [notice])
  else ({ reception with ended := some .unheard }, [])

/-- What a packet tells the session. A packet that cannot be read tells nothing. -/
def noticeOf? (filter : ClickFilter) (body : Bytes) : Option Notice :=
  match Daemon.Event.decode body with
  | .ok event => Notice.ofEvent? filter event
  | .error _ => none

def handle (reception : Reception) (now : Nat) (body : Bytes) : Reception × List Notice :=
  let handled := { reception with handledAt := now }
  match noticeOf? reception.filter body with
  | some notice => handled.forward notice
  | none => (handled, [])

/-- Handles packets one after another until the reception ends. -/
def handleAll (now : Nat) : List Bytes → Reception → Reception × List Notice
  | [], reception => (reception, [])
  | body :: rest, reception =>
    match reception.ended with
    | some _ => (reception, [])
    | none =>
      let first := reception.handle now body
      let others := handleAll now rest first.1
      (others.1, first.2 ++ others.2)

def receive (reception : Reception) (now : Nat) (bytes : Bytes) : Reception × List Notice :=
  match reception.ended with
  | some _ => (reception, [])
  | none =>
    let frames := Frame.split (reception.incomplete ++ bytes)
    handleAll now frames.1 { reception with incomplete := frames.2 }

/-- Whether more bytes complete a packet, so that silence is counted anew. -/
def completes (reception : Reception) (bytes : Bytes) : Bool :=
  reception.ended.isNone && !(Frame.split (reception.incomplete ++ bytes)).1.isEmpty

/-- When the next sign of life is due. -/
def due? (reception : Reception) : Option Nat :=
  match reception.ended with
  | some _ => none
  | none => some (reception.handledAt + reception.timeout)

def beat (reception : Reception) : Reception × List Notice :=
  { reception with handledAt := reception.handledAt + reception.timeout }.forward silence

/-- Lets time pass; each notice comes with its instant. -/
def elapse (reception : Reception) (now : Nat) : Reception × List (Nat × Notice) :=
  let instant := reception.handledAt + reception.timeout
  if reception.ended = none ∧ instant ≤ now then
    let first := reception.beat
    let others := first.1.elapse now
    (others.1, first.2.map (instant, ·) ++ others.2)
  else (reception, [])
  termination_by now - reception.handledAt
  decreasing_by
    have positive := reception.timeout_pos
    have moved : reception.beat.1.handledAt = reception.handledAt + reception.timeout := by
      unfold beat forward
      split <;> rfl
    omega

def isDue (reception : Reception) (now : Nat) : Bool :=
  match reception.due? with
  | some instant => decide (instant ≤ now)
  | none => false

/-- Lets time pass while nobody takes notices, of which so many can be kept. One more stays in hand
until the end of that time, and silence is counted anew from there. -/
def elapseUnattended (reception : Reception) (now : Nat) : Nat → Reception × List Notice
  | 0 =>
    if reception.isDue now then
      let (late, notices) := reception.beat
      ({ late with handledAt := now }, notices)
    else (reception, [])
  | room + 1 =>
    if reception.isDue now then
      let first := reception.beat
      let others := first.1.elapseUnattended now room
      (others.1, first.2 ++ others.2)
    else (reception, [])

/-- Why a stream ends whose last bytes are given. -/
def endOf (rest : Bytes) : ReceptionEnd :=
  match Frame.nextAtEnd rest with
  | .ok _ => .closed
  | .error fault => .unreadable fault

def close (reception : Reception) : Reception × List Notice :=
  match reception.ended with
  | some _ => (reception, [])
  | none =>
    let reason := endOf reception.incomplete
    ({ reception with ended := some reason },
      if reception.heard then [Notice.fatal reason.message] else [])

/-- From now on nobody takes the notices. -/
def abandon (reception : Reception) : Reception := { reception with heard := false }

end Reception

end ButtonGateway
