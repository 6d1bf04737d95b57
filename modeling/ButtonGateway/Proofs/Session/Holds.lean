import ButtonGateway.Proofs.Session.Overdue

namespace ButtonGateway

/-- Whether an effect belongs to the beginning of an epoch. -/
def Effect.isRefresh : Effect → Bool
  | .reconnect | .command _ => true
  | .announce _ | .publish _ _ => false

namespace GestureTracker

theorem not_isRefresh_observe (tracker : GestureTracker) (notice : Notice) :
    ∀ effect ∈ (tracker.observe notice).2, effect.isRefresh = false := by
  intro effect member
  have answer : effect.isAnswer = true := by
    rw [← answers_observe tracker notice] at member
    exact (List.mem_filter.mp member).2
  cases effect with
  | announce | publish => rfl
  | reconnect | command => cases answer

end GestureTracker

namespace Session

theorem not_isRefresh_consume (session : Session) (notice : Notice) :
    ∀ effect ∈ (session.consume notice).2, effect.isRefresh = false := by
  intro effect member
  cases fatal : notice.isFatal with
  | true => simp [(consume_of_fatal fatal session).1] at member
  | false =>
    rw [consume_of_alive fatal] at member
    exact GestureTracker.not_isRefresh_observe _ _ effect member

end Session

namespace Station

/-- What belongs to the beginning of an epoch is done at a start or a refresh only. -/
theorem Move.of_isRefresh {station next : Station} {lines : Log} (move : Move station lines next)
    {effect : Effect} (member : .done effect ∈ lines) (refreshing : effect.isRefresh = true) :
    lines.handled = [] ∧
      (station.session.stage = .starting ∨ station.session.stage = .epochTimedOut) := by
  have answered : ∀ (other : Station) (notice : Notice) (rest : List Notice),
      .done effect ∉ Log.ofAnswer notice (other.handle notice rest).2 := by
    intro other notice rest within
    simp only [Log.ofAnswer, List.mem_cons, List.mem_map, reduceCtorEq, false_or] at within
    obtain ⟨done, among, same⟩ := within
    cases same
    cases (Session.not_isRefresh_consume other.session notice effect among).symm.trans refreshing
  cases move with
  | meanwhile change => simp [Log.ofArrivals] at member
  | start fresh begun => exact ⟨Log.handled_done _, .inl fresh⟩
  | refuse fresh refused => exact ⟨Log.handled_done _, .inl fresh⟩
  | refresh expired begun => exact ⟨Log.handled_done _, .inr expired⟩
  | finish running ended => simp at member
  | handle running first => exact absurd member (answered _ _ _)
  | receive running idle change first =>
    rcases List.mem_append.mp member with arrival | answer
    · simp [Log.ofArrivals] at arrival
    · exact absurd answer (answered _ _ _)
  | close running idle change closed => simp at member

/-- What the stage of a station says about the past on every course of a fresh station. -/
structure Punctual (log : Log) (station : Station) : Prop where
  expired : station.session.stage = .epochTimedOut →
    station.session.isOver station.around.clock = true
  fresh : station.session.stage = .starting → log.handled = []

theorem punctual_of_stage {station : Station} (expired : station.session.stage ≠ .epochTimedOut)
    (fresh : station.session.stage ≠ .starting) (log : Log) : Punctual log station :=
  ⟨fun stage => absurd stage expired, fun stage => absurd stage fresh⟩

private theorem punctual_handle {station : Station} {notice : Notice} {rest : List Notice}
    (running : station.session.stage = .dispatching) (log : Log) :
    Punctual log (station.handle notice rest).1 := by
  have stage : (station.handle notice rest).1.session.stage = _ :=
    Session.stage_consume station.session notice
  rw [running] at stage
  apply punctual_of_stage <;> rw [stage] <;> split <;> simp

theorem Punctual.move {log lines : Log} {station next : Station} (punctual : Punctual log station)
    (move : Move station lines next) : Punctual (log ++ lines) next := by
  cases move with
  | meanwhile change =>
    constructor
    · intro expired
      rw [change.session] at expired ⊢
      obtain ⟨late, free⟩ := (Bool.and_eq_true ..).mp (punctual.expired expired)
      have later := Nat.le_trans (of_decide_eq_true late) change.clock
      exact (Bool.and_eq_true ..).mpr ⟨decide_eq_true later, free⟩
    · intro fresh
      rw [change.session] at fresh
      simpa using punctual.fresh fresh
  | start fresh begun =>
    obtain ⟨rfl, rfl⟩ := start_ok begun
    apply punctual_of_stage <;> simp [opened, Session.enterEpoch]
  | refresh expired begun =>
    obtain ⟨rfl, rfl⟩ := refresh_ok begun
    apply punctual_of_stage <;> simp [opened, Session.enterEpoch]
  | refuse fresh refused =>
    refine ⟨punctual.expired, ?_⟩
    intro fresh
    simpa using punctual.fresh fresh
  | finish running ended =>
    rcases of_turn_ended ended with ⟨rfl, expired⟩ | rfl
    · refine ⟨fun _ => expired, ?_⟩
      intro fresh
      cases fresh
    · apply punctual_of_stage <;> simp [finish]
  | handle running first => exact punctual_handle running _
  | receive running idle change first => exact punctual_handle (change.session ▸ running) _
  | close running idle change closed => apply punctual_of_stage <;> simp [finish]

section Course

variable {addresses : PerSlot (Option Address)} {epochLength : Nat} {publisher : Publisher}
  {log : Log} {station : Station}

private theorem punctual_of_course
    (course : Course (create addresses epochLength publisher) log station) :
    Punctual log station := by
  induction course with
  | stay =>
    constructor
    · intro expired
      cases expired
    · intro fresh
      rfl
  | move _ move ih => exact ih.move move

private theorem tracker_of_course
    (course : Course (create addresses epochLength publisher) log station) :
    station.session.tracker = (GestureTracker.start.observeAll log.heard).1 := by
  rw [(delivered_of_course course).answered]

theorem counted_of_course (course : Course (create addresses epochLength publisher) log station) :
    station.session.tracker.Counted := by
  rw [tracker_of_course course]
  exact GestureTracker.counted_observeAll GestureTracker.counted_start _

/-- A hold that has begun is pending until a notice ends it. -/
theorem holding_of_handled (course : Course (create addresses epochLength publisher) log station)
    {front between : List Notice} {notice : Notice} {slot : Slot}
    (handled : log.handled = front ++ notice :: between) (starts : notice.startsHold slot)
    (kept : ∀ later ∈ between, ¬ later.endsHold slot) :
    station.session.tracker.holding.get slot = true := by
  have begun (tracker : GestureTracker) :
      (tracker.observe notice).1.holding.get slot = true :=
    (tracker.holding_observe_iff notice slot).mpr (.inl starts)
  rw [tracker_of_course course, Log.heard, handled, List.filter_append, List.filter_cons,
    if_pos (by simp [Notice.alive_of_clickOf? starts.2.2]), GestureTracker.observeAll_append,
    GestureTracker.observeAll_cons]
  refine GestureTracker.holding_observeAll (begun _) ?_
  intro later member
  exact kept later (List.mem_filter.mp member).1

/-- A session that is about to begin an epoch has seen the end of every hold that began. -/
theorem hold_ended (course : Course (create addresses epochLength publisher) log station)
    (about : station.session.stage = .starting ∨ station.session.stage = .epochTimedOut)
    {front between : List Notice} {notice : Notice} {slot : Slot}
    (handled : log.handled = front ++ notice :: between) (starts : notice.startsHold slot) :
    ∃ later ∈ between, later.endsHold slot := by
  have punctual := punctual_of_course course
  rcases about with fresh | expired
  · have nothing := punctual.fresh fresh
    simp [handled] at nothing
  · have free := ((Session.isOver_iff (counted_of_course course) _).mp (punctual.expired expired)).2
    by_contra kept
    have held := holding_of_handled course handled starts
      (fun later member ends => kept ⟨later, member, ends⟩)
    cases (free slot).symm.trans held

/-- Between the beginning of a hold and the beginning of an epoch there is the end of the hold. -/
theorem hold_ends_before_refresh
    (course : Course (create addresses epochLength publisher) log station)
    {front between back : Log} {notice : Notice} {effect : Effect} {slot : Slot}
    (split : log = front ++ .handled notice :: between ++ .done effect :: back)
    (starts : notice.startsHold slot) (refreshing : effect.isRefresh = true) :
    ∃ later ∈ between.handled, later.endsHold slot := by
  induction course generalizing back with
  | stay => simp at split
  | @move log lines station next before move ih =>
    -- The effect is one of the last move if what precedes it goes beyond the moves before.
    have last (extra : Log) (beyond : front ++ .handled notice :: between = log ++ extra)
        (within : lines = extra ++ .done effect :: back) :
        ∃ later ∈ between.handled, later.endsHold slot := by
      obtain ⟨silent, about⟩ := move.of_isRefresh (by simp [within]) refreshing
      have quiet : extra.handled = [] := by
        rw [within, Log.handled_append] at silent
        exact (List.append_eq_nil_iff.mp silent).1
      have handled : log.handled = front.handled ++ notice :: between.handled := by
        have same := congrArg Log.handled beyond
        rw [Log.handled_append, Log.handled_append, quiet, List.append_nil] at same
        exact same.symm
      exact hold_ended before about handled starts
    rcases List.append_eq_append_iff.mp split with ⟨extra, beyond, within⟩ | ⟨extra, earlier, rest⟩
    · exact last extra beyond within
    · cases extra with
      | nil => exact last [] (by simpa using earlier.symm) rest.symm
      | cons entry extra =>
        obtain ⟨rfl, _⟩ := List.cons.inj rest
        exact ih earlier

theorem over_of_course (course : Course (create addresses epochLength publisher) log station)
    (expired : station.session.stage = .epochTimedOut) :
    station.session.deadline ≤ station.around.clock ∧ station.session.tracker.Free :=
  (Session.isOver_iff (counted_of_course course) _).mp ((punctual_of_course course).expired expired)

private theorem course_runEpoch
    (course : Course (create addresses epochLength publisher) log station) :
    ∃ further, Course (create addresses epochLength publisher) further station.runEpoch.1 := by
  obtain ⟨lines, epoch, _⟩ := runsTo_runEpoch station
  exact ⟨log ++ lines, course.trans epoch⟩

/-- An epoch that ends late had a hold pending when it was due to end. -/
theorem held_of_late (course : Course (create addresses epochLength publisher) log station)
    (early : station.around.clock ≤ station.session.deadline)
    (late : station.session.deadline < station.runEpoch.1.around.clock) :
    ∃ (middle : Station) (effects : List Effect), RunsTo station effects middle ∧
      middle.session.deadline = station.session.deadline ∧
      middle.around.clock = middle.session.deadline ∧ ¬ middle.session.tracker.Free ∧
      station.runEpoch = (middle.runEpoch.1, effects ++ middle.runEpoch.2) := by
  obtain ⟨middle, effects, run, deadline, reached, going, rest⟩ := going_of_late early late
  refine ⟨middle, effects, run, deadline, reached, ?_, rest⟩
  intro free
  obtain ⟨lines, within, _⟩ := run
  have counted := counted_of_course (course.trans within)
  cases going.symm.trans ((Session.isOver_iff counted _).mpr ⟨Nat.le_of_eq reached.symm, free⟩)

/-- How an epoch that runs comes to its end: it is over as soon as it is due to end and no hold is
pending, and not before. -/
structure EndsUnheld (station : Station) : Prop where
  timesOut : station.turn = .ended .epochTimedOut ↔
    station.session.deadline ≤ station.around.clock ∧ station.session.tracker.Free
  /-- Then no further notice is handled. -/
  silent : station.session.deadline ≤ station.around.clock → station.session.tracker.Free →
    station.runEpoch = (station.finish .epochTimedOut, [])
  /-- An overdue epoch goes on notice by notice while a hold is pending. -/
  overrun : station.session.deadline ≤ station.around.clock →
    Overrun station.inbox.last station.session.tracker station.inbox.store
      station.runEpoch.1.session.tracker station.runEpoch.2 station.runEpoch.1.inbox.store
      station.runEpoch.1.session.stage
  /-- It ends behind the notice that clears the last one. -/
  cleared : ∀ front back, station.session.deadline ≤ station.around.clock →
    station.inbox.store = front ++ back → (∀ notice ∈ front, notice.isFatal = false) →
    (∀ earlier notice later, front = earlier ++ notice :: later →
      ¬ (station.session.tracker.observeAll earlier).1.Free) →
    (station.session.tracker.observeAll front).1.Free →
    station.runEpoch.1.session.stage = .epochTimedOut ∧
      station.runEpoch.1.inbox.store = back ∧
      station.session.tracker.observeAll front =
        (station.runEpoch.1.session.tracker, station.runEpoch.2)
  timedOut : station.runEpoch.1.session.stage = .epochTimedOut →
    station.runEpoch.1.session.deadline ≤ station.runEpoch.1.around.clock ∧
      station.runEpoch.1.session.tracker.Free
  /-- It is never left open without a hold. -/
  blocked : station.runEpoch.1.session.stage = .dispatching →
    ¬ station.runEpoch.1.session.tracker.Free
  /-- One that ends late had a hold pending when it was due to end. -/
  late : station.around.clock ≤ station.session.deadline →
    station.session.deadline < station.runEpoch.1.around.clock →
    ∃ (middle : Station) (effects : List Effect), RunsTo station effects middle ∧
      middle.session.deadline = station.session.deadline ∧
      middle.around.clock = middle.session.deadline ∧ ¬ middle.session.tracker.Free ∧
      station.runEpoch = (middle.runEpoch.1, effects ++ middle.runEpoch.2)

private theorem endsUnheld_of_course
    (course : Course (create addresses epochLength publisher) log station)
    (running : station.session.stage = .dispatching) : EndsUnheld station := by
  have counted := counted_of_course course
  obtain ⟨further, whole⟩ := course_runEpoch course
  have overrun (overdue : station.session.deadline ≤ station.around.clock) :=
    overrun_runEpoch counted running overdue rfl
  refine ⟨turn_timedOut_iff counted, ?_, overrun, ?_, over_of_course whole, ?_,
    held_of_late course⟩
  · intro overdue free
    exact runEpoch_of_over running ((turn_timedOut_iff counted).mpr ⟨overdue, free⟩)
  · intro front back overdue store alive held free
    exact Overrun.until_free (store ▸ overrun overdue) alive held free
  · intro blocked free
    obtain ⟨overdue, going⟩ := overdue_of_blocked blocked
    have expired := (Session.isOver_iff (counted_of_course whole) _).mpr ⟨overdue, free⟩
    cases going.symm.trans expired

/-- What holds do to the epochs of a session that has come so far. -/
structure KeepsEpochsOpen (log : Log) (station : Station) : Prop where
  expired : station.session.stage = .epochTimedOut →
    station.session.deadline ≤ station.around.clock ∧ station.session.tracker.Free
  running : station.session.stage = .dispatching → EndsUnheld station
  /-- No epoch begins between a hold and its end. -/
  between : ∀ front notice between effect back slot,
    log = front ++ .handled notice :: between ++ .done effect :: back →
    notice.startsHold slot → effect.isRefresh = true →
    ∃ later ∈ Log.handled between, later.endsHold slot

/-- Holds keep epochs open, and nothing else does, on every course of a fresh session. -/
theorem holds_keep_epochs_open
    (course : Course (create addresses epochLength publisher) log station) :
    KeepsEpochsOpen log station where
  expired := over_of_course course
  running := endsUnheld_of_course course
  between _ _ _ _ _ _ := hold_ends_before_refresh course

end Course

/-- An epoch of one second that is found overdue while a hold is pending goes on. -/
theorem overdue_epoch_goes_on_for_hold :
    ∃ (log : Log) (station : Station),
      Course (create SlotTable.empty.addresses 1 ⟨true, true, 0⟩) log station ∧
        station.session.stage = .dispatching ∧
        station.session.deadline ≤ station.around.clock ∧
        station.session.tracker.holding.get ⟨0, by decide⟩ = true ∧
        station.turn ≠ .ended .epochTimedOut := by
  let hold := Notice.ofText .upDown 5 0 "Hold"
  let fresh := create SlotTable.empty.addresses 1 ⟨true, true, 0⟩
  let running := { fresh with
    session := fresh.session.enterEpoch (Session.repair fresh.around).1.clock
    around := (Session.repair fresh.around).1 }
  let asked := { running with inbox := running.inbox.put [hold] }
  let held := (asked.handle hold []).1
  have listening : fresh.around.broken = none := rfl
  have started : Course fresh _ running := .ofMove (.start rfl (start_of_listening listening))
  have arrived : Course fresh _ asked := started.trans (Meanwhile.course ⟨rfl, rfl, Nat.le_refl 0⟩)
  have handled : Course fresh _ held := .move arrived (.handle rfl rfl)
  have late : Course fresh _ (held.setClock 2) :=
    handled.trans (Meanwhile.course ⟨rfl, (List.append_nil _).symm, Nat.zero_le 2⟩)
  have pending : held.session.tracker.holding.get ⟨0, by decide⟩ = true := by decide
  refine ⟨_, _, late, rfl, by decide, pending, ?_⟩
  intro expired
  have free := (((holds_keep_epochs_open late).running rfl).timesOut.mp expired).2
  cases pending.symm.trans (free _)

end Station

end ButtonGateway
