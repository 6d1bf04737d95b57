import ButtonGateway.Session
import ButtonGateway.Session.Inbox
/-!
A station: a session together with its inbox and its surroundings. Time passes only while the
session has nothing to do, and then it passes to the next instant at which it might.
-/
namespace ButtonGateway

structure Station where
  session : Session
  inbox : Inbox
  around : Surroundings
  /-- Whether a notice that arrives just when the epoch is due to end comes before that end. -/
  noticesFirst : Bool := false
  deriving DecidableEq, Repr

namespace Station

def create (addresses : PerSlot (Option Address)) (epochLength : Nat) (publisher : Publisher) :
    Station :=
  { session := .create 0 addresses epochLength, inbox := .empty, around := ⟨0, publisher, none⟩ }

/-- The station after its session tried to begin an epoch. -/
def entered (station : Station)
    (result : Except CommandFailure Session × Surroundings × List Effect) :
    Except CommandFailure Station × List Effect :=
  match result with
  | (.ok session, around, effects) => (.ok { station with session, around }, effects)
  | (.error failure, _, effects) => (.error failure, effects)

def start (station : Station) : Except CommandFailure Station × List Effect :=
  station.entered (station.session.start station.around)

def refresh (station : Station) : Except CommandFailure Station × List Effect :=
  station.entered (station.session.refresh station.around)

/-- The next turn of the session. -/
def turn (station : Station) : Session.Turn :=
  station.session.turn station.around.clock station.inbox.waiting station.inbox.closed

/-- The station after its epoch ended. -/
def finish (station : Station) (stage : Stage) : Station :=
  { station with session := { station.session with stage } }

/-- The station after its session handled a notice. -/
def handle (station : Station) (notice : Notice) (rest : List Notice) : Station × List Effect :=
  let (session, effects) := station.session.consume notice
  ({ station with session, inbox := { station.inbox with waiting := rest } }, effects)

def isBeforeDeadline (station : Station) : Bool :=
  decide (station.around.clock < station.session.deadline)

inductive Awaited where
  | deadline
  | arrival (instant : Nat)
  deriving DecidableEq, Repr

/-- Whether the epoch is due to end before a notice arrives. -/
def endsBefore (station : Station) (instant : Nat) : Bool :=
  station.isBeforeDeadline &&
    decide (if station.noticesFirst then station.session.deadline < instant
      else station.session.deadline ≤ instant)

/-- What comes next for an idle session, if anything. -/
def awaited? (station : Station) : Option Awaited :=
  match station.inbox.expected with
  | [] => if station.isBeforeDeadline then some .deadline else none
  | (instant, _) :: _ =>
    if station.endsBefore instant then some .deadline else some (.arrival instant)

def Awaited.instant (station : Station) : Awaited → Nat
  | .deadline => station.session.deadline
  | .arrival instant => max station.around.clock instant

def setClock (station : Station) (clock : Nat) : Station :=
  { station with around := { station.around with clock } }

/-- The station when a notice arrives. An idle session handles the first one at once, even if the
epoch is due to end just then. -/
def receive (station : Station) (instant : Nat) : Station × List Effect :=
  let later := station.setClock (max station.around.clock instant)
  let inbox := station.inbox.arrive later.around.clock
  match inbox.waiting with
  | notice :: rest => { later with inbox }.handle notice rest
  | [] => ({ later with inbox }, [])

def await (station : Station) : Awaited → Station × List Effect
  | .deadline => (station.setClock station.session.deadline, [])
  | .arrival instant => station.receive instant

/-- What comes next for an idle session, if it comes in time. -/
def awaitedBy? (station : Station) (inTime : Nat → Bool) : Option Awaited :=
  station.awaited?.filter fun awaited => inTime (awaited.instant station)

/-- One step of an epoch, if anything can happen in time. -/
def step? (station : Station) (inTime : Nat → Bool) : Option (Station × List Effect) :=
  match station.turn with
  | .ended stage => some (station.finish stage, [])
  | .handled notice rest => some (station.handle notice rest)
  | .idle => (station.awaitedBy? inTime).map station.await

/-- How much can still happen at one instant: notices can be handled, and the stage can change. -/
def bustle (station : Station) : Nat :=
  4 * station.inbox.load +
    match station.session.stage with
    | .starting | .fatal _ => 0
    | .dispatching => if station.isBeforeDeadline then 1 else 3
    | .epochTimedOut => 2

private theorem bustle_dispatching (station : Station)
    (running : station.session.stage = .dispatching) :
    4 * station.inbox.load < station.bustle := by
  unfold bustle
  rw [running]
  dsimp only
  split <;> omega

private theorem bustle_le (station : Station) : station.bustle ≤ 4 * station.inbox.load + 3 := by
  unfold bustle
  split
  · omega
  · omega
  · split <;> omega
  · omega

private theorem bustle_lt_of_load_lt {station next : Station}
    (running : station.session.stage = .dispatching)
    (lighter : next.inbox.load < station.inbox.load) : next.bustle < station.bustle := by
  have least := station.bustle_dispatching running
  have most := next.bustle_le
  omega

private theorem deadline_dispatch (session : Session) (notice : Notice) :
    (session.dispatch notice).1.deadline = session.deadline := by
  unfold Session.dispatch
  split
  · rfl
  · rfl
  · rfl
  · split <;> rfl
  · split <;> rfl

theorem deadline_consume (session : Session) (notice : Notice) :
    (session.consume notice).1.deadline = session.deadline := by
  unfold Session.consume
  split
  · rfl
  · rw [deadline_dispatch]

private theorem load_handle (station : Station) {notice : Notice} {rest : List Notice}
    (first : station.inbox.waiting = notice :: rest) :
    (station.handle notice rest).1.inbox.load < station.inbox.load := by
  simp [handle, Inbox.load, first]

private theorem deadline_handle (station : Station) (notice : Notice) (rest : List Notice) :
    (station.handle notice rest).1.session.deadline = station.session.deadline :=
  deadline_consume station.session notice

private theorem load_receive (station : Station) {instant : Nat} {notice : Notice}
    {rest : List (Nat × Notice)} (first : station.inbox.expected = (instant, notice) :: rest) :
    (station.receive instant).1.inbox.load < station.inbox.load := by
  have lighter := Inbox.load_arrive_lt first (Nat.le_max_right station.around.clock instant)
  unfold receive
  dsimp only
  split
  · rename_i head tail waiting
    exact Nat.lt_trans (load_handle { station.setClock (max station.around.clock instant) with
      inbox := station.inbox.arrive (max station.around.clock instant) } waiting) lighter
  · exact lighter

private theorem deadline_receive (station : Station) (instant : Nat) :
    (station.receive instant).1.session.deadline = station.session.deadline := by
  unfold receive
  dsimp only
  split
  · exact deadline_handle _ _ _
  · rfl

theorem clock_receive (station : Station) (instant : Nat) :
    (station.receive instant).1.around.clock = max station.around.clock instant := by
  unfold receive
  dsimp only
  split <;> rfl

theorem waiting_of_turn {station : Station} {notice : Notice} {rest : List Notice}
    (handled : station.turn = .handled notice rest) : station.inbox.waiting = notice :: rest := by
  unfold turn Session.turn at handled
  split at handled
  · cases handled
  · split at handled
    · rename_i same
      cases handled
      exact same
    · split at handled <;> cases handled

private theorem bustle_finish_lt {station : Station} {stage : Stage}
    (running : station.session.stage = .dispatching) (ended : station.turn = .ended stage) :
    (station.finish stage).bustle < station.bustle := by
  unfold turn Session.turn at ended
  split at ended
  · rename_i ends
    cases ended
    have late : station.isBeforeDeadline = false := by
      simp only [Session.isOver, Bool.and_eq_true, decide_eq_true_eq] at ends
      simp [isBeforeDeadline, ends.1]
    simp [bustle, finish, running, late]
  · split at ended
    · cases ended
    · split at ended
      · cases ended
        simp only [bustle, finish, running]
        split <;> omega
      · cases ended

theorem beforeDeadline_of_awaited {station : Station} (next : station.awaited? = some .deadline) :
    station.around.clock < station.session.deadline := by
  unfold awaited? at next
  split at next
  · split at next
    · rename_i before
      exact of_decide_eq_true before
    · cases next
  · split at next
    · rename_i ends
      exact of_decide_eq_true (Bool.and_eq_true .. ▸ ends).1
    · cases next

theorem expected_of_awaited {station : Station} {instant : Nat}
    (next : station.awaited? = some (.arrival instant)) :
    ∃ notice rest, station.inbox.expected = (instant, notice) :: rest := by
  unfold awaited? at next
  split at next
  · split at next <;> cases next
  · rename_i due notice rest first
    split at next
    · cases next
    · cases next
      exact ⟨notice, rest, first⟩

theorem of_awaitedBy {station : Station} {inTime : Nat → Bool} {awaited : Awaited}
    (next : station.awaitedBy? inTime = some awaited) :
    station.awaited? = some awaited ∧ inTime (awaited.instant station) = true :=
  Option.filter_eq_some_iff.1 next

theorem deadline_step {station : Station} {inTime : Nat → Bool} {next : Station × List Effect}
    (step : station.step? inTime = some next) :
    next.1.session.deadline = station.session.deadline := by
  unfold step? at step
  split at step
  · cases step
    rfl
  · cases step
    exact deadline_handle _ _ _
  · obtain ⟨awaited, _, rfl⟩ := Option.map_eq_some_iff.1 step
    cases awaited with
    | deadline => rfl
    | arrival instant => exact deadline_receive station instant

/-- A step either moves the clock to the deadline, in time, or leaves less to happen. -/
theorem progress_step {station : Station} {inTime : Nat → Bool} {next : Station × List Effect}
    (running : station.session.stage = .dispatching) (step : station.step? inTime = some next) :
    (station.around.clock < station.session.deadline ∧ inTime station.session.deadline = true ∧
        next.1.around.clock = station.session.deadline) ∨
      (station.around.clock ≤ next.1.around.clock ∧ next.1.bustle < station.bustle) := by
  unfold step? at step
  split at step
  · rename_i ended
    cases step
    exact .inr ⟨Nat.le_refl _, bustle_finish_lt running ended⟩
  · rename_i handled
    cases step
    exact .inr ⟨Nat.le_refl _,
      bustle_lt_of_load_lt running (station.load_handle (waiting_of_turn handled))⟩
  · obtain ⟨awaited, found, rfl⟩ := Option.map_eq_some_iff.1 step
    obtain ⟨first, timely⟩ := of_awaitedBy found
    cases awaited with
    | deadline => exact .inl ⟨beforeDeadline_of_awaited first, timely, rfl⟩
    | arrival instant =>
      obtain ⟨notice, rest, expected⟩ := expected_of_awaited first
      refine .inr ⟨?_, bustle_lt_of_load_lt running (station.load_receive expected)⟩
      change station.around.clock ≤ (station.receive instant).1.around.clock
      rw [clock_receive]
      exact Nat.le_max_left _ _

/-- The time left before a limit and what can happen at one instant go down together. -/
theorem lex_of_progress {limit clock clock' bustle bustle' : Nat}
    (progress : (clock < limit ∧ clock < clock') ∨ (clock ≤ clock' ∧ bustle' < bustle)) :
    Prod.Lex (· < ·) (· < ·) (limit - clock', bustle') (limit - clock, bustle) := by
  rcases progress with ⟨before, later⟩ | ⟨later, less⟩
  · exact .left _ _ (by omega)
  · rcases Nat.lt_or_eq_of_le (Nat.sub_le_sub_left later limit) with sooner | same
    · exact .left _ _ sooner
    · rw [same]
      exact .right _ less

/-- Runs an epoch to its end, or until nothing can happen any more: then the stage is still the one
of a running epoch. -/
def runEpoch (station : Station) : Station × List Effect :=
  match _stage : station.session.stage with
  | .dispatching =>
    match _step : station.step? (fun _ => true) with
    | some next =>
      let others := next.1.runEpoch
      (others.1, next.2 ++ others.2)
    | none => (station, [])
  | .starting | .epochTimedOut | .fatal _ => (station, [])
  termination_by (station.session.deadline - station.around.clock, station.bustle)
  decreasing_by
    rw [deadline_step _step]
    refine lex_of_progress ?_
    rcases progress_step _stage _step with ⟨before, _, reached⟩ | progress
    · exact .inl ⟨before, reached ▸ before⟩
    · exact .inr progress

end Station

end ButtonGateway
