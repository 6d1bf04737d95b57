import ButtonGateway.Button
import ButtonGateway.Daemon.Vocabulary
import ButtonGateway.Gesture
/-!
The tracker turns the clicks of each slot into gestures. A hold is reported when the click that
follows it arrives, so each slot remembers whether one is pending; how many are pending is kept as
a count.
-/
namespace ButtonGateway

open Daemon (Click)

/-- How far a press has come. -/
inductive Phase where
  | idle
  | pressed
  | heldDown
  deriving DecidableEq, Repr

def Phase.name : Phase → String
  | .idle => "Idle"
  | .pressed => "Pressed"
  | .heldDown => "HeldDown"

/-- The phases of all slots, and which of them have a hold pending. -/
structure GestureTracker where
  phases : PerSlot Phase
  holding : PerSlot Bool
  heldCount : Nat
  deriving DecidableEq, Repr

namespace GestureTracker

def start : GestureTracker where
  phases := Vector.replicate slotCount .idle
  holding := Vector.replicate slotCount false
  heldCount := 0

/-- The phase of a slot; what is no slot is idle. -/
def phase (tracker : GestureTracker) (slot : UInt8) : Phase :=
  match Slot.ofNat? slot.toNat with
  | some place => tracker.phases.get place
  | none => .idle

def isHolding (tracker : GestureTracker) (slot : UInt8) : Bool :=
  match Slot.ofNat? slot.toNat with
  | some place => tracker.holding.get place
  | none => false

def holdsPending (tracker : GestureTracker) : Bool := tracker.heldCount > 0

/-- Sets or clears the hold of a slot and counts it. -/
def setHolding (tracker : GestureTracker) (slot : Slot) (pending : Bool) : GestureTracker :=
  if tracker.holding.get slot = pending then tracker
  else
    { tracker with
      holding := tracker.holding.set slot pending slot.isLt
      heldCount := if pending then tracker.heldCount + 1 else tracker.heldCount - 1 }

def setPhase (tracker : GestureTracker) (slot : Slot) (phase : Phase) : GestureTracker :=
  { tracker with phases := tracker.phases.set slot phase slot.isLt }

/-- Ends a press with one of two gestures, by whether a hold was pending. -/
def resolve (tracker : GestureTracker) (slot : Slot) (held plain : Gesture) :
    GestureTracker × Option Gesture :=
  ((tracker.setPhase slot .idle).setHolding slot false,
    some (if tracker.holding.get slot then held else plain))

/-- The effect of a click on a slot. A release never resolves a hold; the click that the daemon
reports after it does. -/
def applyAt (tracker : GestureTracker) (slot : Slot) : Click → GestureTracker × Option Gesture
  | .down => ((tracker.setHolding slot false).setPhase slot .pressed, some .stateOn)
  | .up =>
    (if tracker.phases.get slot = .pressed then tracker.setPhase slot .idle else tracker,
      some .stateOff)
  | .hold => ((tracker.setHolding slot true).setPhase slot .heldDown, none)
  | .singleClick => tracker.resolve slot .hold .click
  | .doubleClick => tracker.resolve slot .clickHold .clickClick
  | .click => (tracker, none)

/-- The effect of a click on what should be a slot. -/
def apply (tracker : GestureTracker) (slot : UInt8) (made : Click) :
    GestureTracker × Option Gesture :=
  match Slot.ofNat? slot.toNat with
  | some place => tracker.applyAt place made
  | none => (tracker, none)

/-- Drops the pending hold of a button that went away, and says whether there was one. -/
def cancelHold (tracker : GestureTracker) (slot : UInt8) : GestureTracker × Bool :=
  match Slot.ofNat? slot.toNat with
  | some place =>
    if tracker.holding.get place then ((tracker.setHolding place false).setPhase place .idle, true)
    else (tracker, false)
  | none => (tracker, false)

end GestureTracker

end ButtonGateway
