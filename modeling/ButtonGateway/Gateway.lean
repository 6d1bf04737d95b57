import ButtonGateway.Reception
import ButtonGateway.Session.Running
/-!
The gateway on one connection to the daemon: a reception and a session that runs on what the
reception hands over. The reception keeps the time. A session that repairs its link to the broker is
ahead of it for as long as the repair takes, and works on nothing before the time has come so far.
-/
namespace ButtonGateway

inductive Happening where
  | sent (bytes : Wire.Bytes)
  | elapsed (seconds : Nat)
  /-- The daemon sends no more. -/
  | hungUp
  /-- The daemon takes no more commands. -/
  | deafened
  /-- The reception is stopped from outside. -/
  | interrupted
  | publisher (up : Bool)
  deriving DecidableEq, Repr

structure Gateway where
  clock : Nat
  reception : Reception
  station : Station
  failure : Option CommandFailure
  deriving DecidableEq, Repr

inductive ConnectionState where
  | running
  | ended (reason : String)
  /-- A command could not be written. -/
  | failed (failure : CommandFailure)
  deriving DecidableEq, Repr

namespace Gateway

def state (gateway : Gateway) : ConnectionState :=
  match gateway.failure, gateway.station.session.stage with
  | some failure, _ => .failed failure
  | none, .fatal reason => .ended reason
  | none, _ => .running

def isRunning (gateway : Gateway) : Bool := gateway.state == .running

/-- Whether the session is still repairing its link to the broker. -/
def isBusy (gateway : Gateway) : Bool := decide (gateway.clock < gateway.station.around.clock)

def start (filter : ClickFilter) (buttons : SlotTable) (epochLength : Nat)
    (publisher : Publisher) : Gateway × List Effect :=
  let reception := Reception.start filter 0 Reception.standardTimeout (by decide)
  let station := Station.create buttons.addresses epochLength publisher
  match station.start with
  | (.ok started, effects) => (⟨0, reception, started.waitAnew, none⟩, effects)
  | (.error failure, effects) => (⟨0, reception, station, some failure⟩, effects)

def runUntil (gateway : Gateway) (limit : Nat) : Gateway × List Effect :=
  let (station, effects, failure) := gateway.station.runUntil limit
  ({ gateway with station, failure }, effects)

/-- Replaces the reception and changes the inbox. -/
def update (gateway : Gateway) (reception : Reception) (change : Inbox → Inbox) : Gateway :=
  { gateway with
    reception
    station := { gateway.station with inbox := change gateway.station.inbox } }

def alter (gateway : Gateway) (change : Surroundings → Surroundings) : Gateway :=
  { gateway with station := { gateway.station with around := change gateway.station.around } }

/-- Lets the reception count silence anew while the session still waits: now the session has waited
for the end of its epoch for longer than the reception for the end of the silence. -/
def countAnew (gateway : Gateway) : Gateway :=
  { gateway with station := { gateway.station with noticesFirst := false } }

/-- What happens, before the session works on it. -/
def prepare (gateway : Gateway) (happening : Happening) : Gateway :=
  let reception := gateway.reception
  match happening with
  | .sent bytes =>
    let (after, notices) := reception.receive gateway.clock bytes
    let updated := gateway.update after (·.put notices)
    if reception.completes bytes && notices.isEmpty && !gateway.isBusy then updated.countAnew
    else updated
  | .elapsed seconds =>
    let clock := gateway.clock + seconds
    let (after, notices) := reception.elapse clock
    { gateway.update after (·.await notices) with clock }
  | .hungUp =>
    let (after, notices) := reception.close
    gateway.update after fun inbox => { inbox.put notices with last := true }
  | .deafened => gateway.alter fun around => { around with broken := some (.stream "broken pipe") }
  | .interrupted =>
    gateway.update { reception with ended := some .unheard } fun inbox =>
      { inbox with last := true }
  | .publisher up =>
    gateway.alter fun around => { around with publisher := { around.publisher with up } }

/-- Lets the session work until now, unless it is busy for longer. What the reception has handed
over meanwhile waits for it then. -/
def work (gateway : Gateway) : Gateway × List Effect :=
  let worked := if gateway.isBusy then (gateway, []) else gateway.runUntil gateway.clock
  (worked.1.update worked.1.reception (·.arrive gateway.clock), worked.2)

theorem work_of_busy {gateway : Gateway} (busy : gateway.isBusy = true) :
    gateway.work = (gateway.update gateway.reception (·.arrive gateway.clock), []) := by
  rw [work, busy]
  rfl

theorem work_of_idle {gateway : Gateway} (idle : gateway.isBusy = false) :
    gateway.work =
      ((gateway.runUntil gateway.clock).1.update gateway.reception (·.arrive gateway.clock),
        (gateway.runUntil gateway.clock).2) := by
  rw [work, idle]
  rfl

/-- Takes note of what happens. On a connection that has ended nothing has an effect. -/
def step (gateway : Gateway) (happening : Happening) : Gateway × List Effect :=
  if gateway.isRunning then (gateway.prepare happening).work else (gateway, [])

def run (gateway : Gateway) : List Happening → Gateway × List Effect
  | [] => (gateway, [])
  | happening :: rest =>
    let first := gateway.step happening
    let others := first.1.run rest
    (others.1, first.2 ++ others.2)

end Gateway

end ButtonGateway
