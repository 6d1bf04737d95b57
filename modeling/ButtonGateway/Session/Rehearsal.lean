import ButtonGateway.Session.Station

namespace ButtonGateway

inductive Cue where
  | start
  | runEpoch
  | refresh
  | notice (notice : Notice)
  | later (seconds : Nat) (notice : Notice)
  | advance (seconds : Nat)
  /-- Sends no more notices, apart from those that are on their way. -/
  | seal
  | breakDaemon
  | publisher (up : Bool)
  deriving DecidableEq, Repr

/-- What became of the session of a rehearsal. -/
inductive Standing where
  | present
  /-- It waits for what will never come. -/
  | blocked
  | failed
  deriving DecidableEq, Repr

structure Rehearsal where
  station : Station
  standing : Standing
  deriving DecidableEq, Repr

structure Response where
  effects : List Effect := []
  /-- Whether the session was in no state for the cue. -/
  ignored : Bool := false
  delivery : Option Delivery := none
  failure : Option CommandFailure := none
  deriving DecidableEq, Repr

namespace Rehearsal

/-- The cue that each stage waits for. -/
def expects (rehearsal : Rehearsal) (cue : Cue) : Bool :=
  match rehearsal.standing, rehearsal.station.session.stage, cue with
  | .present, .starting, .start => true
  | .present, .dispatching, .runEpoch => true
  | .present, .epochTimedOut, .refresh => true
  | _, _, _ => false

def entered (rehearsal : Rehearsal) :
    Except CommandFailure Station × List Effect → Rehearsal × Response
  | (.ok station, effects) => ({ rehearsal with station }, { effects })
  | (.error failure, effects) =>
    ({ rehearsal with standing := .failed }, { effects, failure := some failure })

/-- Runs an epoch. A session that is still in it afterwards will stay there. -/
def runEpoch (rehearsal : Rehearsal) : Rehearsal × Response :=
  let (station, effects) := rehearsal.station.runEpoch
  (⟨station, if station.session.stage = .dispatching then .blocked else .present⟩, { effects })

def setInbox (rehearsal : Rehearsal) (inbox : Inbox) : Rehearsal :=
  { rehearsal with station := { rehearsal.station with inbox } }

/-- Offers a notice; without a session nobody takes it. -/
def offer (rehearsal : Rehearsal) (notice : Notice) : Rehearsal × Response :=
  match rehearsal.standing with
  | .present =>
    let (inbox, delivery) := rehearsal.station.inbox.offer notice
    (rehearsal.setInbox inbox, { delivery := some delivery })
  | .blocked | .failed => (rehearsal, { delivery := some .closed })

def alter (rehearsal : Rehearsal) (change : Surroundings → Surroundings) : Rehearsal :=
  { rehearsal with
    station := { rehearsal.station with around := change rehearsal.station.around } }

/-- Does what a cue asks for, before the notices that are due arrive. -/
def act (rehearsal : Rehearsal) (cue : Cue) : Rehearsal × Response :=
  let station := rehearsal.station
  let inbox := station.inbox
  let clock := station.around.clock
  match cue with
  | .start =>
    if rehearsal.expects cue then rehearsal.entered station.start
    else (rehearsal, { ignored := true })
  | .runEpoch =>
    if rehearsal.expects cue then rehearsal.runEpoch else (rehearsal, { ignored := true })
  | .refresh =>
    if rehearsal.expects cue then rehearsal.entered station.refresh
    else (rehearsal, { ignored := true })
  | .notice notice => rehearsal.offer notice
  | .later seconds notice =>
    (rehearsal.setInbox (inbox.expect (clock + seconds) notice), {})
  | .advance seconds => (rehearsal.alter fun around => { around with clock := clock + seconds }, {})
  | .seal => (rehearsal.setInbox { inbox with last := true }, {})
  | .breakDaemon =>
    (rehearsal.alter fun around => { around with broken := some (.stream "broken pipe") }, {})
  | .publisher up =>
    (rehearsal.alter fun around => { around with publisher := { around.publisher with up } }, {})

/-- Does what a cue asks for, and lets in the notices that are due by then. -/
def perform (rehearsal : Rehearsal) (cue : Cue) : Rehearsal × Response :=
  let (after, response) := rehearsal.act cue
  (after.setInbox (after.station.inbox.arrive after.station.around.clock), response)

def stateName (rehearsal : Rehearsal) : String :=
  match rehearsal.standing with
  | .present => rehearsal.station.session.stage.name
  | .blocked => "Blocked"
  | .failed => "Failed"

end Rehearsal

end ButtonGateway
