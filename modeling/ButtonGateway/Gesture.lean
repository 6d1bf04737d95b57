import ButtonGateway.Button

namespace ButtonGateway

inductive Gesture where
  | stateOn
  | stateOff
  | click
  | hold
  | clickClick
  | clickHold
  deriving DecidableEq, Repr

inductive TopicKind where
  | state
  | click
  | hold
  | clickClick
  | clickHold
  deriving DecidableEq, Repr

namespace TopicKind

def suffix : TopicKind → String
  | .state => "STATE"
  | .click => "CLICK"
  | .hold => "HOLD"
  | .clickClick => "CLICKCLICK"
  | .clickHold => "CLICKHOLD"

def all : List TopicKind := [.state, .click, .hold, .clickClick, .clickHold]

end TopicKind

namespace Gesture

def topic : Gesture → TopicKind
  | .stateOn | .stateOff => .state
  | .click => .click
  | .hold => .hold
  | .clickClick => .clickClick
  | .clickHold => .clickHold

/-- What is published for a gesture: the state of the button, or the instant of the gesture. -/
def payload (gesture : Gesture) (instant : String) : String :=
  match gesture with
  | .stateOn => "On"
  | .stateOff => "Off"
  | .click | .hold | .clickClick | .clickHold => instant

def name : Gesture → String
  | .stateOn => "StateOn"
  | .stateOff => "StateOff"
  | .click => "Click"
  | .hold => "Hold"
  | .clickClick => "ClickClick"
  | .clickHold => "ClickHold"

end Gesture

/-- What topics are made of: the levels in front of all of them, and the names of the buttons. -/
structure Topics where
  base : String
  names : PerSlot (Option String)
  deriving DecidableEq, Repr

namespace Topics

def availability (topics : Topics) : String := topics.base ++ "/LWT"

def ofName (topics : Topics) (name : String) (kind : TopicKind) : String :=
  String.intercalate "/" [topics.base, name, kind.suffix]

/-- The topic of one kind for a slot, if a button is configured there. -/
def topic? (topics : Topics) (slot : UInt8) (kind : TopicKind) : Option String :=
  match Slot.ofNat? slot.toNat with
  | some place => (topics.names.get place).map fun name => topics.ofName name kind
  | none => none

end Topics

end ButtonGateway
