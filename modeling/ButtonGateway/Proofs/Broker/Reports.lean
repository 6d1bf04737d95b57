import ButtonGateway.Broker.Client
import ButtonGateway.Proofs.Broker.Link

namespace ButtonGateway.Broker

def Signal.isLast : Signal → Bool
  | .refused | .broken => true
  | .accepted | .acknowledged | .other => false

/-- What is reported of a signal with which the connection goes on. -/
def Signal.progress? : Signal → Option LinkEvent
  | .accepted => some .connected
  | .acknowledged => some .sendComplete
  | .refused | .other | .broken => none

/-- A connection reports this; the other events come from whoever connects or publishes. -/
def LinkEvent.isReport : LinkEvent → Bool
  | .connected | .connectFailed | .sendComplete | .connectionLost => true
  | .attempt | .send | .sendFailed => false

/-- What happens between two attempts to connect. -/
inductive Incident where
  | heard (signal : Signal)
  | handed
  | declined
  deriving DecidableEq, Repr

def Incident.signal? : Incident → Option Signal
  | .heard signal => some signal
  | .handed | .declined => none

namespace Life

def afterAll (life : Life) (signals : List Signal) : Life := signals.foldl after life

def reports : Life → List Signal → List LinkEvent
  | _, [] => []
  | life, signal :: later => (life.report? signal).toList ++ (life.after signal).reports later

def events : Life → List Incident → List LinkEvent
  | _, [] => []
  | life, .heard signal :: later => (life.report? signal).toList ++ (life.after signal).events later
  | life, .handed :: later => .send :: life.events later
  | life, .declined :: later => .sendFailed :: life.events later

variable {life : Life} {signals : List Signal}

/-- All that a signal can do. -/
theorem cases_of_signal (life : Life) (signal : Signal) :
    (life.report? signal = none ∧ life.after signal = life) ∨
      (life.report? signal = some .connected ∧ life.after signal = .connected) ∨
      (life.report? signal = some .sendComplete ∧ life.after signal = life) ∨
      (life.report? signal = some .connectFailed ∧ life.after signal = .dead) ∨
      (life.report? signal = some .connectionLost ∧ life = .connected ∧
        life.after signal = .dead) := by
  cases life <;> cases signal <;> simp [report?, after]

theorem afterAll_append (life : Life) (first second : List Signal) :
    life.afterAll (first ++ second) = (life.afterAll first).afterAll second :=
  List.foldl_append

private theorem reports_append (life : Life) (first second : List Signal) :
    life.reports (first ++ second) =
      life.reports first ++ (life.afterAll first).reports second := by
  induction first generalizing life with
  | nil => rfl
  | cons signal later ih =>
    rw [List.cons_append, reports, reports, ih, List.append_assoc]
    rfl

private theorem reports_dead (signals : List Signal) : dead.reports signals = [] := by
  induction signals with
  | nil => rfl
  | cons signal later ih => exact ih

private theorem afterAll_dead (signals : List Signal) : dead.afterAll signals = dead := by
  induction signals with
  | nil => rfl
  | cons signal later ih => exact ih

private theorem step_of_going {signal : Signal} (alive : life.isAlive = true)
    (going : signal.isLast = false) :
    life.after signal = (if signal = .accepted then .connected else life) ∧
      life.report? signal = signal.progress? := by
  cases life with
  | absent | dead => cases alive
  | pending | connected =>
    cases signal with
    | refused | broken => cases going
    | accepted | acknowledged | other => exact ⟨rfl, rfl⟩

/-- Signals with which the connection goes on are reported one by one. -/
theorem run_of_going (alive : life.isAlive = true)
    (going : ∀ signal ∈ signals, signal.isLast = false) :
    life.afterAll signals = (if .accepted ∈ signals then .connected else life) ∧
      life.reports signals = signals.filterMap Signal.progress? := by
  induction signals generalizing life with
  | nil => exact ⟨rfl, rfl⟩
  | cons signal later ih =>
    obtain ⟨here, there⟩ := List.forall_mem_cons.mp going
    obtain ⟨next, report⟩ := step_of_going alive here
    have stillAlive : (life.after signal).isAlive = true := by
      rw [next]
      split
      · rfl
      · exact alive
    obtain ⟨last, reported⟩ := ih stillAlive there
    constructor
    · rw [afterAll, List.foldl_cons, ← afterAll, last, next]
      by_cases accepted : signal = .accepted
      · simp [accepted]
      · simp [accepted, Ne.symm accepted]
    · rw [reports, report, reported, List.filterMap_cons]
      cases signal.progress? <;> rfl

/-- What is reported last. -/
theorem step_of_last {signal : Signal} (alive : life.isAlive = true) (ends : signal.isLast = true) :
    life.after signal = .dead ∧ life.report? signal =
      some (if signal = .broken ∧ life = .connected then .connectionLost else .connectFailed) := by
  cases life with
  | absent | dead => cases alive
  | pending | connected =>
    cases signal with
    | accepted | acknowledged | other => cases ends
    | refused | broken => exact ⟨rfl, rfl⟩

/-- The first signal that ends the connection is the last one that is reported. -/
theorem run_of_last {before : List Signal} {last : Signal}
    (going : ∀ signal ∈ before, signal.isLast = false) (ends : last.isLast = true)
    (behind : List Signal) :
    pending.afterAll (before ++ last :: behind) = .dead ∧
      pending.reports (before ++ last :: behind) = before.filterMap Signal.progress? ++
        [if last = .broken ∧ .accepted ∈ before then .connectionLost else .connectFailed] := by
  obtain ⟨life, reported⟩ := run_of_going (rfl : pending.isAlive = true) going
  have alive : (pending.afterAll before).isAlive = true := by
    rw [life]
    split <;> rfl
  have connected : pending.afterAll before = .connected ↔ .accepted ∈ before := by
    rw [life]
    split <;> simp [*]
  obtain ⟨next, report⟩ := step_of_last alive ends
  constructor
  · rw [afterAll_append, afterAll, List.foldl_cons, next]
    exact afterAll_dead behind
  · rw [reports_append, reported, reports, next, report, reports_dead]
    simp only [connected]
    rfl

private theorem gone_of_last {signal : Signal} (ends : signal.isLast = true) (life : Life) :
    (life.after signal).isAlive = false := by
  cases life with
  | absent | dead => rfl
  | pending | connected => rw [(step_of_last rfl ends).1]; rfl

/-- What is over stays over. -/
theorem gone_afterAll (gone : life.isAlive = false) (signals : List Signal) :
    (life.afterAll signals).isAlive = false := by
  induction signals generalizing life with
  | nil => exact gone
  | cons signal later ih =>
    apply ih
    cases life with
    | absent | dead => rfl
    | pending | connected => cases gone

private theorem isAlive_pending_iff :
    (pending.afterAll signals).isAlive = true ↔ ∀ signal ∈ signals, signal.isLast = false := by
  constructor
  · intro alive last member
    rw [← Bool.not_eq_true]
    intro ends
    obtain ⟨before, behind, rfl⟩ := List.append_of_mem member
    have gone := gone_afterAll (gone_of_last ends (pending.afterAll before)) behind
    rw [afterAll_append] at alive
    cases gone.symm.trans alive
  · intro going
    rw [(run_of_going rfl going).1]
    split <;> rfl

private theorem isReport_of_mem_report? {signal : Signal} {event : LinkEvent}
    (member : event ∈ (life.report? signal).toList) : event.isReport = true := by
  rcases cases_of_signal life signal with h | h | h | h | h <;> rw [h.1] at member
  · cases member
  all_goals
    rw [List.mem_singleton.mp member]
    rfl

/-- What publishing does to the link is not reported, and changes nothing of what is. -/
theorem filter_events (life : Life) (incidents : List Incident) :
    (life.events incidents).filter LinkEvent.isReport =
      life.reports (incidents.filterMap Incident.signal?) := by
  induction incidents generalizing life with
  | nil => rfl
  | cons incident later ih =>
    cases incident with
    | heard signal =>
      have all : (life.report? signal).toList.filter LinkEvent.isReport =
          (life.report? signal).toList :=
        List.filter_eq_self.mpr fun _ => isReport_of_mem_report?
      rw [events, List.filter_append, all, ih]
      rfl
    | handed | declined => exact ih life

end Life

namespace Client

def meet (client : Client) : Incident → Client
  | .heard signal => client.hear signal
  | .handed => client.note .send
  | .declined => client.note .sendFailed

def meetAll (client : Client) (incidents : List Incident) : Client := incidents.foldl meet client

private theorem link_meetAll (client : Client) (incidents : List Incident) :
    (client.meetAll incidents).link = client.link.afterAll (client.life.events incidents) := by
  induction incidents generalizing client with
  | nil => rfl
  | cons incident later ih =>
    have further := ih (client.meet incident)
    cases incident with
    | heard signal =>
      rw [Life.events, Link.afterAll_append]
      exact further
    | handed | declined => exact further

theorem life_meetAll (client : Client) (incidents : List Incident) :
    (client.meetAll incidents).life =
      client.life.afterAll (incidents.filterMap Incident.signal?) := by
  induction incidents generalizing client with
  | nil => rfl
  | cons incident later ih =>
    have further := ih (client.meet incident)
    cases incident with
    | heard signal | handed | declined => exact further

/-- A link is up only while its client is connected, and it has the answer to the attempt unless the
client waits for it. -/
structure Standing (link : Link) (life : Life) : Prop where
  connected : link.up = true → life = .connected
  settled : life ≠ .pending → link.settled = true

namespace Standing

variable {link : Link} {life : Life}

theorem renew (client : Client) : Standing client.renew.link client.renew.life :=
  ⟨nofun, absurd rfl⟩

/-- A loss alone is no answer to the attempt; but what is lost had been accepted before. -/
theorem hear (standing : Standing link life) (signal : Signal) :
    Standing (link.afterAll (life.report? signal).toList) (life.after signal) := by
  obtain ⟨report, next⟩ | ⟨report, next⟩ | ⟨report, next⟩ | ⟨report, next⟩ | ⟨report, was, next⟩ :=
    Life.cases_of_signal life signal <;> rw [report, next]
  · exact standing
  · exact ⟨fun _ => rfl, fun _ => rfl⟩
  · exact ⟨fun up => standing.connected (Bool.and_eq_true_iff.mp up).1, standing.settled⟩
  · exact ⟨nofun, fun _ => rfl⟩
  · exact ⟨nofun, fun _ => standing.settled (by rw [was]; exact nofun)⟩

theorem meet {client : Client} (standing : Standing client.link client.life)
    (incident : Incident) : Standing (client.meet incident).link (client.meet incident).life := by
  cases incident with
  | heard signal => exact standing.hear signal
  | handed => exact ⟨fun up => standing.connected (Bool.and_eq_true_iff.mp up).1, standing.settled⟩
  | declined => exact ⟨nofun, standing.settled⟩

theorem meetAll {client : Client} (standing : Standing client.link client.life)
    (incidents : List Incident) :
    Standing (client.meetAll incidents).link (client.meetAll incidents).life := by
  induction incidents generalizing client with
  | nil => exact standing
  | cons incident later ih => exact ih (standing.meet incident)

/-- When the connection is over, nobody waits for its answer. -/
theorem unawaited (standing : Standing link life) (gone : life.isAlive = false) :
    link.up = false ∧ link.settled = true ∧ ∀ now limit, link.isAwaited now limit = false := by
  have down : link.up = false := by
    rw [← Bool.not_eq_true]
    intro up
    rw [standing.connected up] at gone
    cases gone
  have settled : link.settled = true := by
    apply standing.settled
    rintro rfl
    cases gone
  refine ⟨down, settled, fun now limit => ?_⟩
  rw [Link.isAwaited, settled]
  rfl

end Standing

private theorem isAlive_attempt_iff (client : Client) (incidents : List Incident) :
    (client.renew.meetAll incidents).isAlive = true ↔
      ∀ signal ∈ incidents.filterMap Incident.signal?, signal.isLast = false := by
  rw [isAlive, life_meetAll]
  exact Life.isAlive_pending_iff

/-- Nothing but an acceptance brings the link up, and it is not up any longer than the connection
lasts. -/
theorem accepted_of_up {client : Client} {incidents : List Incident}
    (up : (client.renew.meetAll incidents).link.up = true) :
    .accepted ∈ incidents.filterMap Incident.signal? ∧
      ∀ signal ∈ incidents.filterMap Incident.signal?, signal.isLast = false := by
  have connected := ((Standing.renew client).meetAll incidents).connected up
  have going := (isAlive_attempt_iff client incidents).mp (by rw [isAlive, connected]; rfl)
  refine ⟨?_, going⟩
  by_contra missing
  have pending : (client.renew.meetAll incidents).life = .pending := by
    rw [life_meetAll]
    exact (Life.run_of_going rfl going).1.trans (if_neg missing)
  cases connected.symm.trans pending

/-- After an attempt the link is told of each acceptance and each acknowledgement, in order, until
the connection is refused or breaks. It is told of that last, as of a loss if the connection had
been accepted and as of a failed attempt if not, and of nothing more; then the link is down and
nobody waits for the answer any longer. The link is up only after an acceptance. -/
theorem connection_reports_until_it_ends (client : Client) (incidents : List Incident) :
    let signals := incidents.filterMap Incident.signal?
    let events := Life.events .pending incidents
    let reports := events.filter LinkEvent.isReport
    let later := client.renew.meetAll incidents
    later.link = client.link.afterAll (.attempt :: events) ∧
      ((∀ signal ∈ signals, signal.isLast = false) →
        reports = signals.filterMap Signal.progress? ∧ later.isAlive = true) ∧
      (∀ before last behind, signals = before ++ last :: behind →
        (∀ signal ∈ before, signal.isLast = false) → last.isLast = true →
        reports = before.filterMap Signal.progress? ++
            [if last = .broken ∧ .accepted ∈ before then .connectionLost else .connectFailed] ∧
          later.isAlive = false) ∧
      (later.isAlive = false → later.link.up = false ∧ later.link.settled = true ∧
        ∀ now limit, later.link.isAwaited now limit = false) ∧
      (later.link.up = true → .accepted ∈ signals ∧ ∀ signal ∈ signals, signal.isLast = false) := by
  intro signals events reports later
  have reported : reports = Life.reports .pending signals := Life.filter_events .pending incidents
  refine ⟨link_meetAll client.renew incidents, ?going, ?ended,
    ((Standing.renew client).meetAll incidents).unawaited, accepted_of_up⟩
  case going =>
    intro going
    exact ⟨reported.trans (Life.run_of_going rfl going).2,
      (isAlive_attempt_iff client incidents).mpr going⟩
  case ended =>
    intro before last behind split going ends
    obtain ⟨dead, told⟩ := Life.run_of_last going ends behind
    rw [← split] at dead told
    have life : later.life = .dead := (life_meetAll client.renew incidents).trans dead
    exact ⟨reported.trans told, by rw [isAlive, life]; rfl⟩

/-- A connection that is accepted twice and then breaks, while a publication is handed over and
another one is not taken. -/
theorem accepted_connection_is_lost :
    let client := Client.start { location := ⟨"broker", 1883⟩, clientId := "gateway" }
      ⟨"buttons", Vector.replicate slotCount none⟩
    let incidents := [.heard .accepted, .handed, .heard .acknowledged, .declined, .heard .accepted,
      .heard .other, .heard .broken, .heard .acknowledged]
    let later := client.renew.meetAll incidents
    (Life.events .pending incidents).filter LinkEvent.isReport =
        [.connected, .sendComplete, .connected, .connectionLost] ∧
      later.isAlive = false ∧ later.link.up = false ∧ later.link.settled = true ∧
      ∀ now limit, later.link.isAwaited now limit = false := by
  intro client incidents later
  obtain ⟨-, -, ended, gone, -⟩ := connection_reports_until_it_ends client incidents
  obtain ⟨reports, dead⟩ := ended [.accepted, .acknowledged, .accepted, .other] .broken
    [.acknowledged] rfl (by decide) rfl
  exact ⟨reports, dead, gone dead⟩

end Client

end ButtonGateway.Broker
