import ButtonGateway.Gateway
import ButtonGateway.Proofs.Reception
import ButtonGateway.Proofs.Session.Arrivals

namespace ButtonGateway

namespace Happening

def incident? : Happening → Option Incident
  | .sent bytes => some (.sent bytes)
  | .elapsed seconds => some (.elapsed seconds)
  | .hungUp | .interrupted => some .closed
  | .deafened | .publisher _ => none

/-- What happens to a reception until it is stopped. -/
def incidents (happenings : List Happening) : List Incident :=
  (happenings.takeWhile (· ≠ .interrupted)).filterMap incident?

end Happening

namespace Reception

/-- Signs of life come by the time that they are asked for. -/
theorem due_of_elapse (reception : Reception) (now : Nat) :
    ∀ entry ∈ (reception.elapse now).2, entry.1 ≤ now := by
  fun_induction elapse reception now with
  | case1 reception instant due first others ih =>
    intro entry member
    rcases List.mem_append.mp member with beat | later
    · obtain ⟨notice, -, rfl⟩ := List.mem_map.mp beat
      exact due.2
    · exact ih entry later
  | case2 => simp

end Reception

namespace Gateway

open Station

section Start

variable (filter : ClickFilter) (buttons : SlotTable) (epochLength : Nat) (publisher : Publisher)

/-- What a connection does when it is opened: the daemon is not deaf from the beginning. -/
theorem start_eq :
    start filter buttons epochLength publisher =
      (⟨0, .start filter 0 Reception.standardTimeout (by decide),
        { Station.create buttons.addresses epochLength publisher with
          session := (Session.create 0 buttons.addresses epochLength).enterEpoch
            (Session.repair ⟨0, publisher, none⟩).1.clock
          around := (Session.repair ⟨0, publisher, none⟩).1
          noticesFirst := true }, none⟩,
        .announce false ::
          ((.getInfo :: (Session.create 0 buttons.addresses epochLength).connectCommands).map
              .command ++
            if publisher.up then [] else [.reconnect])) := by
  have listening : (Station.create buttons.addresses epochLength publisher).around.broken = none :=
    rfl
  unfold start
  dsimp only
  rw [start_of_listening listening, Session.effects_repair]
  rfl

/-- A connection that is opened is a session that was started. -/
theorem course_start :
    Course (.create buttons.addresses epochLength publisher)
      ((start filter buttons epochLength publisher).2.map .done)
      (start filter buttons epochLength publisher).1.station := by
  have listening : (Station.create buttons.addresses epochLength publisher).around.broken = none :=
    rfl
  have begun := start_of_listening listening
  have waits := (Course.ofMove (.start rfl begun)).trans (meanwhile_waitAnew _).course
  rw [Log.ofArrivals, List.map_nil, List.append_nil, Session.effects_repair] at waits
  rw [start_eq]
  exact waits

theorem reaches_start :
    Reaches (.create buttons.addresses epochLength publisher) []
      (start filter buttons epochLength publisher).2
      (start filter buttons epochLength publisher).1.station :=
  ⟨_, course_start filter buttons epochLength publisher, Log.accepted_done _, Log.effects_done _⟩

theorem expected_start :
    (start filter buttons epochLength publisher).1.station.inbox.expected = [] := by
  rw [start_eq]
  rfl

end Start

def handed (gateway : Gateway) : Happening → List Notice
  | .sent bytes => (gateway.reception.receive gateway.clock bytes).2
  | .elapsed seconds => (gateway.reception.elapse (gateway.clock + seconds)).2.map (·.2)
  | .hungUp => gateway.reception.close.2
  | .deafened | .interrupted | .publisher _ => []

/-- What happens on a connection, before the session works on it: some notices arrive, the others
are due by then. -/
structure Prepares (gateway : Gateway) (happening : Happening) (arrivals : List Notice) : Prop where
  change : Meanwhile gateway.station arrivals (gateway.prepare happening).station
  handed : gateway.handed happening =
    arrivals ++ (gateway.prepare happening).station.inbox.expected.map (·.2)
  due : ∀ entry ∈ (gateway.prepare happening).station.inbox.expected,
    entry.1 ≤ (gateway.prepare happening).clock

private theorem exists_prepares {gateway : Gateway} (nothing : gateway.station.inbox.expected = [])
    (happening : Happening) : ∃ arrivals, gateway.Prepares happening arrivals := by
  have unchanged : gateway.station.inbox.waiting = gateway.station.inbox.waiting ++ [] :=
    (List.append_nil _).symm
  cases happening with
  | sent bytes =>
    refine ⟨(gateway.reception.receive gateway.clock bytes).2, ?_, ?_, ?_⟩
    · unfold prepare
      dsimp only
      split <;> exact ⟨rfl, rfl, Nat.le_refl _⟩
    all_goals
      unfold prepare
      dsimp only
      split <;> simp [handed, update, countAnew, Inbox.put, nothing]
  | elapsed seconds =>
    refine ⟨[], ⟨rfl, unchanged, Nat.le_refl _⟩, ?_, ?_⟩
    · simp [handed, prepare, update, Inbox.await, nothing]
    · simpa [prepare, update, Inbox.await, nothing] using gateway.reception.due_of_elapse _
  | hungUp =>
    refine ⟨gateway.reception.close.2, ⟨rfl, rfl, Nat.le_refl _⟩, ?_, ?_⟩ <;>
      simp [handed, prepare, update, Inbox.put, nothing]
  | deafened | interrupted | publisher =>
    refine ⟨[], ⟨rfl, unchanged, Nat.le_refl _⟩, ?_, ?_⟩ <;>
      simp [handed, prepare, update, alter, nothing]

/-- While a session works, its inbox accepts all that is due. -/
theorem reaches_work {gateway : Gateway}
    (due : ∀ entry ∈ gateway.station.inbox.expected, entry.1 ≤ gateway.clock) :
    Reaches gateway.station (gateway.station.inbox.expected.map (·.2)) gateway.work.2
        gateway.work.1.station ∧
      gateway.work.1.station.inbox.expected = [] := by
  obtain ⟨worked, effects, arrived, ran, run, letsIn⟩ :
      ∃ (worked : Gateway) (effects : List Effect) (arrived : List (Nat × Notice)),
        gateway.work = (worked.update gateway.reception (·.arrive gateway.clock), effects) ∧
        RunsTo gateway.station effects worked.station ∧
        LetsIn gateway.station gateway.station.inbox.expected arrived worked.station := by
    cases busy : gateway.isBusy with
    | true =>
      exact ⟨gateway, [], [], work_of_busy busy, .refl _, .none rfl (Nat.le_refl _)⟩
    | false =>
      obtain ⟨arrived, letsIn⟩ := letsIn_runUntil gateway.clock gateway.station
      exact ⟨_, _, arrived, work_of_idle busy, runsTo_runUntil _ _, letsIn⟩
  have all : ∀ entry ∈ worked.station.inbox.expected, decide (entry.1 ≤ gateway.clock) = true := by
    intro entry member
    have before : entry ∈ gateway.station.inbox.expected := by
      rw [letsIn.expected]
      exact List.mem_append_right arrived member
    exact decide_eq_true (due entry before)
  have change : Meanwhile worked.station (worked.station.inbox.expected.map (·.2))
      gateway.work.1.station := by
    rw [ran]
    refine ⟨rfl, ?_, Nat.le_refl _⟩
    simp only [update, Inbox.arrive]
    rw [List.takeWhile_eq_self_iff.mpr all]
  constructor
  · have reaches := (run.reaches letsIn).trans change.reaches
    rw [← List.map_append, ← letsIn.expected, List.append_nil] at reaches
    rwa [ran] at reaches ⊢
  · rw [ran]
    exact List.dropWhile_eq_nil_iff.mpr all

theorem step_of_running {gateway : Gateway} (running : gateway.isRunning = true)
    (happening : Happening) : gateway.step happening = (gateway.prepare happening).work :=
  if_pos running

/-- With one step the session accepts what the reception hands over. -/
theorem reaches_step {gateway : Gateway} (running : gateway.isRunning = true)
    (nothing : gateway.station.inbox.expected = []) (happening : Happening) :
    Reaches gateway.station (gateway.handed happening) (gateway.step happening).2
        (gateway.step happening).1.station ∧
      (gateway.step happening).1.station.inbox.expected = [] := by
  obtain ⟨arrivals, prepares⟩ := exists_prepares nothing happening
  obtain ⟨reaches, further⟩ := reaches_work prepares.due
  rw [step_of_running running, prepares.handed]
  exact ⟨prepares.change.reaches.trans reaches, further⟩

private theorem clock_step {gateway : Gateway} (running : gateway.isRunning = true)
    (happening : Happening) :
    (gateway.step happening).1.clock = (gateway.prepare happening).clock ∧
      (gateway.step happening).1.reception = (gateway.prepare happening).reception := by
  rw [step_of_running running]
  cases busy : (gateway.prepare happening).isBusy with
  | true =>
    rw [work_of_busy busy]
    exact ⟨rfl, rfl⟩
  | false =>
    rw [work_of_idle busy]
    exact ⟨rfl, rfl⟩

/-- The happenings until the connection has ended. -/
def noted (gateway : Gateway) : List Happening → List Happening
  | [] => []
  | happening :: rest =>
    if gateway.isRunning then happening :: (gateway.step happening).1.noted rest else []

def handedOver (gateway : Gateway) (happenings : List Happening) : List Notice :=
  (gateway.reception.follow gateway.clock (Happening.incidents happenings)).2

private theorem handedOver_cons {gateway : Gateway} (running : gateway.isRunning = true)
    (happening : Happening) (rest : List Happening) :
    gateway.handedOver (happening :: rest) =
      gateway.handed happening ++ (gateway.step happening).1.handedOver rest := by
  obtain ⟨clock, reception⟩ := clock_step running happening
  rw [handedOver, handedOver, clock, reception]
  cases happening with
  | sent bytes =>
    unfold prepare
    dsimp only
    split <;> rfl
  | elapsed | hungUp | deafened | publisher => rfl
  | interrupted =>
    have ended : (gateway.prepare .interrupted).reception.ended = some .unheard := rfl
    exact (congrArg Prod.snd (Reception.follow_of_ended ended _ _)).symm

theorem run_of_stopped {gateway : Gateway} (stopped : gateway.isRunning = false)
    (happenings : List Happening) : gateway.run happenings = (gateway, []) := by
  induction happenings with
  | nil => rfl
  | cons happening rest ih =>
    have still : gateway.step happening = (gateway, []) := by
      rw [step, stopped]
      rfl
    rw [run, still]
    dsimp only
    rw [ih]
    rfl

theorem noted_prefix (gateway : Gateway) (happenings : List Happening) :
    gateway.noted happenings <+: happenings := by
  induction happenings generalizing gateway with
  | nil => exact List.nil_prefix
  | cons happening rest ih =>
    unfold noted
    split
    · exact (List.prefix_cons_inj happening).mpr (ih _)
    · exact List.nil_prefix

/-- On a connection the session accepts what the reception hands over until it has ended. -/
theorem reaches_run {gateway : Gateway} (nothing : gateway.station.inbox.expected = [])
    (happenings : List Happening) :
    Reaches gateway.station (gateway.handedOver (gateway.noted happenings))
      (gateway.run happenings).2 (gateway.run happenings).1.station := by
  induction happenings generalizing gateway with
  | nil => exact .refl gateway.station
  | cons happening rest ih =>
    cases running : gateway.isRunning with
    | false =>
      rw [run_of_stopped running, noted, running]
      exact .refl gateway.station
    | true =>
      obtain ⟨reaches, further⟩ := reaches_step running nothing happening
      rw [noted, if_pos running, handedOver_cons running]
      exact reaches.trans (ih further)

end Gateway

end ButtonGateway
