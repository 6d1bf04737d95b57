import ButtonGateway.Settings
import ButtonGateway.Text.Split

namespace ButtonGateway.Settings

inductive Violation where
  | tooManyButtons (count : Nat)
  | slotOutOfRange (slot : UInt8)
  | slotTwice (slot : UInt8)
  | unusableName (name : String)
  | nameTwice (name : String)
  | unusableBase (base : String)
  | emptyUrl
  | unusableClientId (clientId : String)
  | epochOutOfRange (length : UInt64)
  deriving DecidableEq, Repr

/-- The longest epoch in seconds: 366 days. -/
def maxEpochLength : UInt64 := 31622400

def Violation.text : Violation → String
  | .tooManyButtons count => toString count ++ " buttons configured, at most 8 slots exist"
  | .slotOutOfRange slot => "slot " ++ toString slot.toNat ++ " out of range 0..8"
  | .slotTwice slot => "slot " ++ toString slot.toNat ++ " configured twice"
  | .unusableName name => "button name '" ++ name ++ "' is not usable as a topic segment"
  | .nameTwice name => "button name '" ++ name ++ "' used twice"
  | .unusableBase base => "mqtt topic_prefix '" ++ base ++ "' is empty or contains wildcards"
  | .emptyUrl => "empty mqtt url"
  | .unusableClientId clientId => "mqtt client_id '" ++ clientId ++ "' is not usable"
  | .epochOutOfRange length =>
    "epoch_secs " ++ toString length.toNat ++ " out of range 1..=" ++
      toString maxEpochLength.toNat

def Violation.message (violation : Violation) : String := "Invalid settings: " ++ violation.text

/-- Whether characters can stand in one level of a topic. -/
def isSegment (chars : List Char) : Bool :=
  !chars.isEmpty && chars.all fun char => char != '/' && char != '+' && char != '#'

/-- Whether a text can stand in front of all topics. It may have several levels. -/
def isTopicBase (base : String) : Bool :=
  (Text.pieces (· == '/') base.toList).all isSegment

/-- Whether a broker takes a name for a client. -/
def isClientId (clientId : String) : Bool :=
  match clientId.toList with
  | [] => false
  | char :: _ => char != ' '

/-- The first thing that is wrong with a button, given those before it. -/
def buttonViolation? (before : List Button) (button : Button) : Option Violation :=
  if slotCount ≤ button.slot.toNat then some (.slotOutOfRange button.slot)
  else if button.slot ∈ before.map Button.slot then some (.slotTwice button.slot)
  else if !isSegment button.name.toList then some (.unusableName button.name)
  else if button.name ∈ before.map Button.name then some (.nameTwice button.name)
  else none

def buttonsViolation? (before : List Button) : List Button → Option Violation
  | [] => none
  | button :: rest =>
    match buttonViolation? before button with
    | some violation => some violation
    | none => buttonsViolation? (before ++ [button]) rest

def violation? (settings : Settings) : Option Violation :=
  if slotCount < settings.buttons.length then some (.tooManyButtons settings.buttons.length)
  else match buttonsViolation? [] settings.buttons with
    | some violation => some violation
    | none =>
      if !isTopicBase settings.broker.topicBase then some (.unusableBase settings.broker.topicBase)
      else if settings.broker.url.isEmpty then some .emptyUrl
      else if !isClientId settings.broker.clientId then
        some (.unusableClientId settings.broker.clientId)
      else if settings.epochLength = 0 ∨ maxEpochLength < settings.epochLength then
        some (.epochOutOfRange settings.epochLength)
      else none

/-- Refuses settings that the gateway cannot work with. -/
def validate (settings : Settings) : Except Violation Unit :=
  match settings.violation? with
  | some violation => .error violation
  | none => .ok ()

end ButtonGateway.Settings
