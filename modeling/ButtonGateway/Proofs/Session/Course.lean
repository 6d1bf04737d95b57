import ButtonGateway.Proofs.Session.Log
import ButtonGateway.Proofs.Session.Opening
/-!
The course of a station, move by move, with its log. Between two moves of the session anything may
happen around it: notices arrive, time passes, the broker and the daemon change. A station that is
run takes such a course.
-/
namespace ButtonGateway

/-- What waits and what will arrive, in the order in which it will be handled. -/
def Inbox.store (inbox : Inbox) : List Notice := inbox.waiting ++ inbox.expected.map (·.2)

theorem Inbox.store_arrive (inbox : Inbox) (now : Nat) :
    (inbox.arrive now).store = inbox.store := by
  simp only [store, arrive]
  rw [List.append_assoc, ← List.map_append, List.takeWhile_append_dropWhile]

namespace Station

/-- What may change while the session does nothing: notices arrive, others are expected or no more
are, time passes, and the broker and the daemon do as they like. -/
structure Meanwhile (station : Station) (arrivals : List Notice) (next : Station) : Prop where
  session : next.session = station.session
  waiting : next.inbox.waiting = station.inbox.waiting ++ arrivals
  clock : station.around.clock ≤ next.around.clock

/-- One move of a station and its lines in the log. A session that waits for a notice looks at the
inbox before it looks at the clock again. -/
inductive Move : Station → Log → Station → Prop where
  | meanwhile {station next : Station} {arrivals : List Notice}
      (change : Meanwhile station arrivals next) : Move station (.ofArrivals arrivals) next
  | start {station next : Station} {effects : List Effect}
      (fresh : station.session.stage = .starting) (begun : station.start = (.ok next, effects)) :
      Move station (effects.map .done) next
  /-- A session that cannot begin says so much and stays as it is. -/
  | refuse {station : Station} {failure : CommandFailure} {effects : List Effect}
      (fresh : station.session.stage = .starting)
      (refused : station.start = (.error failure, effects)) :
      Move station (effects.map .done) station
  | refresh {station next : Station} {effects : List Effect}
      (expired : station.session.stage = .epochTimedOut)
      (begun : station.refresh = (.ok next, effects)) : Move station (effects.map .done) next
  | finish {station : Station} {stage : Stage} (running : station.session.stage = .dispatching)
      (ended : station.turn = .ended stage) : Move station [] (station.finish stage)
  | handle {station : Station} {notice : Notice} {rest : List Notice}
      (running : station.session.stage = .dispatching)
      (first : station.turn = .handled notice rest) :
      Move station (.ofAnswer notice (station.handle notice rest).2) (station.handle notice rest).1
  | receive {station woken : Station} {arrivals rest : List Notice} {notice : Notice}
      (running : station.session.stage = .dispatching) (idle : station.turn = .idle)
      (change : Meanwhile station arrivals woken) (first : woken.inbox.waiting = notice :: rest) :
      Move station (.ofArrivals arrivals ++ .ofAnswer notice (woken.handle notice rest).2)
        (woken.handle notice rest).1
  | close {station woken : Station} (running : station.session.stage = .dispatching)
      (idle : station.turn = .idle) (change : Meanwhile station [] woken)
      (closed : woken.inbox.closed = true) :
      Move station [] (woken.finish (.fatal "event channel closed"))

/-- Moves one after another from a first station, and the log of them all. -/
inductive Course (first : Station) : Log → Station → Prop where
  | stay : Course first [] first
  | move {log lines : Log} {station next : Station} (before : Course first log station)
      (move : Move station lines next) : Course first (log ++ lines) next

theorem Course.trans {first middle last : Station} {front back : Log}
    (before : Course first front middle) (after : Course middle back last) :
    Course first (front ++ back) last := by
  induction after with
  | stay => simpa using before
  | move _ move ih =>
    rw [← List.append_assoc]
    exact .move ih move

theorem Course.ofMove {station next : Station} {lines : Log} (move : Move station lines next) :
    Course station lines next := by
  simpa using Course.move .stay move

theorem Meanwhile.course {station next : Station} {arrivals : List Notice}
    (change : Meanwhile station arrivals next) :
    Course station (.ofArrivals arrivals) next := .ofMove (.meanwhile change)

private theorem queued_of_move {station next : Station} {lines : Log}
    (move : Move station lines next) :
    station.inbox.waiting ++ lines.accepted = lines.handled ++ next.inbox.waiting := by
  cases move with
  | meanwhile change => simp [change.waiting]
  | start fresh begun => simp [(start_ok begun).1, opened]
  | refuse fresh refused => simp
  | refresh expired begun => simp [(refresh_ok begun).1, opened]
  | finish running ended => simp [finish, Log.accepted, Log.handled]
  | handle running first => simp [waiting_of_turn first, handle]
  | receive running idle change first => simp [← change.waiting, first, handle]
  | close running idle change closed =>
    simp [finish, Log.accepted, Log.handled, change.waiting]

/-- What waits at first and what is accepted later is handled in this order or waits at last. -/
theorem queued_of_course {station next : Station} {log : Log} (course : Course station log next) :
    station.inbox.waiting ++ log.accepted = log.handled ++ next.inbox.waiting := by
  induction course with
  | stay => simp [Log.accepted, Log.handled]
  | move _ move ih =>
    rw [Log.accepted_append, Log.handled_append, ← List.append_assoc, ih, List.append_assoc,
      queued_of_move move, List.append_assoc]

/-- A station reaches another by a course on which its inbox accepts the given notices and the
session does the given things. -/
def Reaches (station : Station) (notices : List Notice) (effects : List Effect)
    (next : Station) : Prop :=
  ∃ log, Course station log next ∧ log.accepted = notices ∧ log.effects = effects

theorem Reaches.refl (station : Station) : Reaches station [] [] station := ⟨[], .stay, rfl, rfl⟩

theorem Reaches.trans {first middle last : Station} {notices more : List Notice}
    {front back : List Effect} (before : Reaches first notices front middle)
    (after : Reaches middle more back last) :
    Reaches first (notices ++ more) (front ++ back) last := by
  obtain ⟨earlier, toMiddle, rfl, rfl⟩ := before
  obtain ⟨later, toLast, rfl, rfl⟩ := after
  exact ⟨earlier ++ later, toMiddle.trans toLast, Log.accepted_append earlier later,
    Log.effects_append earlier later⟩

theorem Meanwhile.reaches {station next : Station} {arrivals : List Notice}
    (change : Meanwhile station arrivals next) : Reaches station arrivals [] next :=
  ⟨_, change.course, Log.accepted_ofArrivals arrivals, Log.effects_ofArrivals arrivals⟩

/-- A session that begins an epoch, or cannot, accepts nothing. -/
theorem Reaches.ofDone {station next : Station} {effects : List Effect}
    (move : Move station (effects.map .done) next) : Reaches station [] effects next :=
  ⟨_, .ofMove move, Log.accepted_done effects, Log.effects_done effects⟩

/-- A station that is left to itself reaches another by a course on which the session does the given
things: what its inbox had in store was handled or is still in store. -/
def RunsTo (station : Station) (effects : List Effect) (next : Station) : Prop :=
  ∃ log, Course station log next ∧ log.effects = effects ∧
    log.handled ++ next.inbox.store = station.inbox.store

/-- What such a station accepts was expected, and what it does not accept is still expected. -/
theorem RunsTo.exists_reaches {station next : Station} {effects : List Effect}
    (run : RunsTo station effects next) :
    ∃ notices, Reaches station notices effects next ∧
      notices ++ next.inbox.expected.map (·.2) = station.inbox.expected.map (·.2) := by
  obtain ⟨log, course, done, kept⟩ := run
  refine ⟨log.accepted, ⟨log, course, rfl, done⟩, ?_⟩
  have queued := queued_of_course course
  unfold Inbox.store at kept
  rw [← List.append_assoc, ← queued, List.append_assoc] at kept
  exact List.append_cancel_left kept

theorem RunsTo.refl (station : Station) : RunsTo station [] station := ⟨[], .stay, rfl, rfl⟩

theorem RunsTo.trans {first middle last : Station} {front back : List Effect}
    (before : RunsTo first front middle) (after : RunsTo middle back last) :
    RunsTo first (front ++ back) last := by
  obtain ⟨earlier, toMiddle, rfl, kept⟩ := before
  obtain ⟨later, toLast, rfl, keptToo⟩ := after
  refine ⟨earlier ++ later, toMiddle.trans toLast, Log.effects_append earlier later, ?_⟩
  rw [Log.handled_append, List.append_assoc, keptToo, kept]

theorem Meanwhile.runsTo {station next : Station} {arrivals : List Notice}
    (change : Meanwhile station arrivals next) (kept : next.inbox.store = station.inbox.store) :
    RunsTo station [] next :=
  ⟨_, change.course, Log.effects_ofArrivals arrivals, by simpa using kept⟩

private theorem runsTo_refresh {station next : Station} {effects : List Effect}
    (expired : station.session.stage = .epochTimedOut)
    (refreshed : station.refresh = (.ok next, effects)) : RunsTo station effects next := by
  refine ⟨_, .ofMove (.refresh expired refreshed), Log.effects_done effects, ?_⟩
  simp [(refresh_ok refreshed).1, opened]

theorem store_handle (station : Station) {notice : Notice} {rest : List Notice}
    (first : station.inbox.waiting = notice :: rest) :
    notice :: (station.handle notice rest).1.inbox.store = station.inbox.store := by
  simp [Inbox.store, handle, first]

/-- The wait for a notice: it arrives, with all others that are due by then, and is handled. -/
theorem runsTo_receive {station : Station} (instant : Nat)
    (running : station.session.stage = .dispatching) (idle : station.turn = .idle) :
    RunsTo station (station.receive instant).2 (station.receive instant).1 := by
  unfold receive
  dsimp only
  split
  · rename_i notice rest first
    refine ⟨_, .ofMove (.receive running idle ⟨rfl, rfl, Nat.le_max_left _ _⟩ first), ?_, ?_⟩
    · simp
    · rw [Log.handled_append, Log.handled_ofArrivals, Log.handled_ofAnswer, List.nil_append]
      exact (store_handle _ first).trans (Inbox.store_arrive station.inbox _)
  · exact Meanwhile.runsTo ⟨rfl, rfl, Nat.le_max_left _ _⟩ (Inbox.store_arrive station.inbox _)

theorem runsTo_step {station : Station} {inTime : Nat → Bool} {next : Station × List Effect}
    (running : station.session.stage = .dispatching) (step : station.step? inTime = some next) :
    RunsTo station next.2 next.1 := by
  unfold step? at step
  split at step
  · rename_i ended
    cases step
    exact ⟨_, .ofMove (.finish running ended), rfl, rfl⟩
  · rename_i notice rest handled
    cases step
    refine ⟨_, .ofMove (.handle running handled), Log.effects_ofAnswer _ _, ?_⟩
    rw [Log.handled_ofAnswer]
    exact store_handle station (waiting_of_turn handled)
  · rename_i idle
    obtain ⟨awaited, found, rfl⟩ := Option.map_eq_some_iff.1 step
    cases awaited with
    | deadline =>
      have before := beforeDeadline_of_awaited (of_awaitedBy found).1
      have change : Meanwhile station [] (station.setClock station.session.deadline) :=
        ⟨rfl, (List.append_nil _).symm, Nat.le_of_lt before⟩
      exact change.runsTo rfl
    | arrival instant => exact runsTo_receive instant running idle

theorem runEpoch_of_step {station : Station} {next : Station × List Effect}
    (running : station.session.stage = .dispatching)
    (step : station.step? (fun _ => true) = some next) :
    station.runEpoch = (next.1.runEpoch.1, next.2 ++ next.1.runEpoch.2) := by
  rw [runEpoch]
  split
  · split
    · rename_i found
      cases step.symm.trans found
      rfl
    · rename_i stuck
      cases step.symm.trans stuck
  all_goals
    rename_i stopped
    cases running.symm.trans stopped

theorem runEpoch_of_stuck {station : Station} (stuck : station.step? (fun _ => true) = none) :
    station.runEpoch = (station, []) := by
  rw [runEpoch]
  split
  · split
    · rename_i found
      cases stuck.symm.trans found
    · rfl
  all_goals rfl

theorem runEpoch_of_stopped {station : Station} (stopped : station.session.stage ≠ .dispatching) :
    station.runEpoch = (station, []) := by
  rw [runEpoch]
  split
  · rename_i running
    exact absurd running stopped
  all_goals rfl

/-- An epoch that is run is a course. -/
theorem runsTo_runEpoch (station : Station) :
    RunsTo station station.runEpoch.2 station.runEpoch.1 := by
  fun_induction runEpoch station with
  | case1 station running next step others ih => exact (runsTo_step running step).trans ih
  | case2 station running stuck => exact .refl station
  | case3 station fresh => exact .refl station
  | case4 station expired => exact .refl station
  | case5 station reason dead => exact .refl station

theorem meanwhile_waitAnew (station : Station) : Meanwhile station [] station.waitAnew :=
  ⟨rfl, (List.append_nil _).symm, Nat.le_refl _⟩

/-- A session that runs on until a given time takes a course, also where it ends for a command that
could not be written. -/
theorem runsTo_runUntil (limit : Nat) (station : Station) :
    RunsTo station (station.runUntil limit).2.1 (station.runUntil limit).1 := by
  fun_induction runUntil limit station with
  | case1 station fresh => exact .refl station
  | case2 station reason dead => exact .refl station
  | case3 station expired failure effects refused =>
    rw [refresh_error refused]
    exact .refl station
  | case4 station expired next effects begun before others ih =>
    have anew := (meanwhile_waitAnew next).runsTo rfl
    exact (runsTo_refresh expired begun).trans (anew.trans ih)
  | case5 station expired next effects begun late => exact runsTo_refresh expired begun
  | case6 station running next step others ih =>
    have anew := (meanwhile_waitAnew next.1).runsTo rfl
    exact (runsTo_step running step).trans (anew.trans ih)
  | case7 station running stuck =>
    have change : Meanwhile station [] (station.setClock (max station.around.clock limit)) :=
      ⟨rfl, (List.append_nil _).symm, Nat.le_max_left _ _⟩
    exact change.runsTo rfl

end Station

end ButtonGateway
