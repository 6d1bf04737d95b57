import ButtonGateway.Proofs.Session.Epochs
import ButtonGateway.Supervision

namespace ButtonGateway

namespace Session

/-- Whatever a session does about a notice is an answer. -/
theorem isAnswer_of_consume {session : Session} {notice : Notice} {effect : Effect}
    (member : effect ∈ (session.consume notice).2) : effect.isAnswer = true := by
  cases fatal : notice.isFatal with
  | true => simp [(consume_of_fatal fatal session).1] at member
  | false =>
    rw [consume_of_alive fatal, ← GestureTracker.answers_observe] at member
    exact (List.mem_filter.mp member).2

end Session

namespace Station

/-- A session that has started does not start again, and does not announce the gateway offline. -/
theorem online_of_course {station next : Station} {log : Log} (course : Course station log next)
    (begun : station.session.stage ≠ .starting) :
    next.session.stage ≠ .starting ∧ .announce false ∉ log.effects := by
  induction course with
  | stay => exact ⟨begun, by simp [Log.effects]⟩
  | @move log lines middle next _ move ih =>
    obtain ⟨further, quiet⟩ := ih
    have answer (other : Station) (notice : Notice) (rest : List Notice) :
        .announce false ∉ Log.effects (.ofAnswer notice (other.handle notice rest).2) := by
      rw [Log.effects_ofAnswer]
      intro member
      cases Session.isAnswer_of_consume member
    refine ⟨?_, ?_⟩
    · rcases move.begins_or_keeps with ⟨_, _, rfl, _⟩ | ⟨_, kept, _⟩
      · simp [opened, Session.enterEpoch]
      · intro fresh
        exact further (kept.fresh fresh ▸ fresh)
    · rw [Log.effects_append, List.mem_append, not_or]
      refine ⟨quiet, ?_⟩
      cases move with
      | meanwhile change => simp
      | start fresh begun => exact absurd fresh further
      | refuse fresh refused => exact absurd fresh further
      | refresh expired begun =>
        rw [(refresh_ok begun).2, Log.effects_done, Session.effects_repair]
        split <;> simp
      | finish running ended => simp [Log.effects]
      | handle running first => exact answer _ _ _
      | receive running idle change first =>
        rw [Log.effects_append, Log.effects_ofArrivals, List.nil_append]
        exact answer _ _ _
      | close running idle change closed => simp [Log.effects]

private theorem publisher_step {station : Station} {inTime : Nat → Bool}
    {next : Station × List Effect}
    (step : station.step? inTime = some next) :
    next.1.around.publisher = station.around.publisher := by
  unfold step? at step
  split at step
  · cases step
    rfl
  · cases step
    rfl
  · obtain ⟨awaited, _, rfl⟩ := Option.map_eq_some_iff.1 step
    cases awaited with
    | deadline => rfl
    | arrival instant =>
      unfold await receive
      dsimp only
      split <;> rfl

end Station

/-- Two publishers are repaired in the same way, whether they are up or not. -/
structure Publisher.Alike (first second : Publisher) : Prop where
  upAfterReconnect : first.upAfterReconnect = second.upAfterReconnect
  reconnectTime : first.reconnectTime = second.reconnectTime

namespace Publisher.Alike

theorem refl (publisher : Publisher) : publisher.Alike publisher := ⟨rfl, rfl⟩

theorem trans {first second third : Publisher} (before : first.Alike second)
    (after : second.Alike third) : first.Alike third :=
  ⟨before.upAfterReconnect.trans after.upAfterReconnect,
    before.reconnectTime.trans after.reconnectTime⟩

theorem symm {first second : Publisher} (alike : first.Alike second) : second.Alike first :=
  ⟨alike.upAfterReconnect.symm, alike.reconnectTime.symm⟩

theorem withUp_eq {first second : Publisher} (alike : first.Alike second) (up : Bool) :
    { first with up } = { second with up } := by
  rw [alike.upAfterReconnect, alike.reconnectTime]

end Publisher.Alike

namespace Station

theorem alike_opened (station : Station) :
    station.opened.around.publisher.Alike station.around.publisher := by
  cases up : station.around.publisher.up <;>
    exact ⟨by simp [opened, Session.repair, up], by simp [opened, Session.repair, up]⟩

private theorem alike_runUntil (limit : Nat) (station : Station) :
    (station.runUntil limit).1.around.publisher.Alike station.around.publisher := by
  fun_induction runUntil limit station with
  | case1 station fresh => exact .refl _
  | case2 station reason dead => exact .refl _
  | case3 station expired failure effects refused => exact .refl _
  | case4 station expired next effects begun before others ih =>
    obtain ⟨rfl, _⟩ := refresh_ok begun
    exact ih.trans station.alike_opened
  | case5 station expired next effects begun late =>
    rw [(refresh_ok begun).1]
    exact station.alike_opened
  | case6 station running next step others ih =>
    rw [← publisher_step step]
    exact ih
  | case7 station running stuck => exact .refl _

theorem runUntil_of_step {station : Station} {limit : Nat} {next : Station × List Effect}
    (running : station.session.stage = .dispatching)
    (step : station.step? (fun instant => decide (instant ≤ limit)) = some next) :
    station.runUntil limit =
      ((next.1.waitAnew.runUntil limit).1, next.2 ++ (next.1.waitAnew.runUntil limit).2.1,
        (next.1.waitAnew.runUntil limit).2.2) := by
  rw [runUntil]
  split
  · rename_i fresh
    cases running.symm.trans fresh
  · rename_i dead
    cases running.symm.trans dead
  · rename_i expired
    cases running.symm.trans expired
  · split
    · rename_i found
      cases step.symm.trans found
      rfl
    · rename_i stuck
      cases step.symm.trans stuck

theorem runUntil_of_dead {station : Station} {reason : String}
    (dead : station.session.stage = .fatal reason) (limit : Nat) :
    station.runUntil limit = (station, [], none) := by
  rw [runUntil]
  split
  · rfl
  · rfl
  · rename_i expired
    cases dead.symm.trans expired
  · rename_i running
    cases dead.symm.trans running

/-- The session is about to ask the daemon for its state, and the daemon does not take the
command. -/
structure Unheard (station : Station) (failure : CommandFailure) : Prop where
  about : station.session.stage = .epochTimedOut
  deaf : station.around.broken = some failure.fault
  opcode : failure.opcode = Daemon.Command.getInfo.opcode

theorem Unheard.unique {station : Station} {first second : CommandFailure}
    (one : station.Unheard first) (other : station.Unheard second) : first = second := by
  have fault := Option.some.inj (one.deaf.symm.trans other.deaf)
  have opcode := one.opcode.trans other.opcode.symm
  cases first
  cases second
  cases fault
  cases opcode
  rfl

private theorem unheard_of_refresh {station : Station} {failure : CommandFailure}
    {effects : List Effect}
    (expired : station.session.stage = .epochTimedOut)
    (refused : station.refresh = (.error failure, effects)) : station.Unheard failure := by
  cases broken : station.around.broken with
  | none =>
    rw [refresh_of_listening broken] at refused
    cases refused
  | some fault =>
    rw [refresh_of_deaf broken] at refused
    cases refused
    exact ⟨expired, broken, rfl⟩

theorem none_iff_unheard {station : Station} (otherwise : station.session.stage ≠ .epochTimedOut)
    (failure : CommandFailure) : none = some failure ↔ station.Unheard failure := by
  constructor
  · intro none
    cases none
  · intro unheard
    exact absurd unheard.about otherwise

/-- A session runs on until the daemon does not take a command, and only then it stops between two
epochs. -/
theorem unheard_runUntil_iff (limit : Nat) (station : Station) (failure : CommandFailure) :
    (station.runUntil limit).2.2 = some failure ↔
      (station.runUntil limit).1.Unheard failure := by
  fun_induction runUntil limit station with
  | case1 station fresh => exact none_iff_unheard (by simp [fresh]) failure
  | case2 station reason dead => exact none_iff_unheard (by simp [dead]) failure
  | case3 station expired other effects refused =>
    have unheard := unheard_of_refresh expired refused
    refine ⟨?_, fun again => congrArg some (unheard.unique again)⟩
    intro same
    cases same
    exact unheard
  | case4 station expired next effects begun before others ih => exact ih
  | case5 station expired next effects begun late =>
    refine none_iff_unheard ?_ failure
    rw [(refresh_ok begun).1]
    simp [opened, Session.enterEpoch]
  | case6 station running next step others ih => exact ih
  | case7 station running stuck =>
    refine none_iff_unheard ?_ failure
    simp [setClock, running]

/-- A session that is left to itself stops between two epochs only where it fails. -/
theorem going_of_runUntil (limit : Nat) (station : Station)
    (spared : (station.runUntil limit).2.2 = none) :
    (station.runUntil limit).1.session.stage ≠ .epochTimedOut := by
  fun_induction runUntil limit station with
  | case1 station fresh => simp [fresh]
  | case2 station reason dead => simp [dead]
  | case3 station expired other effects refused => cases spared
  | case4 station expired next effects begun before others ih => exact ih spared
  | case5 station expired next effects begun late =>
    rw [(refresh_ok begun).1]
    simp [opened, Session.enterEpoch]
  | case6 station running next step others ih => exact ih spared
  | case7 station running stuck => simp [setClock, running]

end Station

namespace Gateway

/-- What one step keeps, a whole connection keeps. -/
theorem run_keeps {kept : Gateway → Prop}
    (step : ∀ gateway happening, kept gateway → kept (gateway.step happening).1)
    {gateway : Gateway} (holds : kept gateway) (happenings : List Happening) :
    kept (gateway.run happenings).1 := by
  induction happenings generalizing gateway with
  | nil => exact holds
  | cons happening rest ih => exact ih (step gateway happening holds)

private theorem alike_prepare (gateway : Gateway) (happening : Happening) :
    (gateway.prepare happening).station.around.publisher.Alike
      gateway.station.around.publisher := by
  cases happening with
  | sent bytes =>
    unfold prepare
    dsimp only
    split <;> exact .refl _
  | elapsed | hungUp | deafened | interrupted => exact .refl _
  | publisher up => exact ⟨rfl, rfl⟩

private theorem alike_work (gateway : Gateway) :
    gateway.work.1.station.around.publisher.Alike gateway.station.around.publisher := by
  cases busy : gateway.isBusy with
  | true =>
    rw [work_of_busy busy]
    exact .refl _
  | false =>
    rw [work_of_idle busy]
    exact Station.alike_runUntil _ _

private theorem alike_step (gateway : Gateway) (happening : Happening) :
    (gateway.step happening).1.station.around.publisher.Alike
      gateway.station.around.publisher := by
  unfold step
  split
  · exact (alike_work _).trans (gateway.alike_prepare happening)
  · exact .refl _

theorem alike_run (gateway : Gateway) (happenings : List Happening) :
    (gateway.run happenings).1.station.around.publisher.Alike gateway.station.around.publisher :=
  run_keeps (fun first happening kept => (first.alike_step happening).trans kept)
    (.refl _) happenings

/-- A connection has failed exactly if the daemon did not take a command, and it stops between two
epochs only then. -/
structure Settled (gateway : Gateway) : Prop where
  failed : ∀ failure, gateway.failure = some failure ↔ gateway.station.Unheard failure
  going : gateway.failure = none → gateway.station.session.stage ≠ .epochTimedOut

private theorem settled_of_going {gateway : Gateway} (none : gateway.failure = none)
    (going : gateway.station.session.stage ≠ .epochTimedOut) : gateway.Settled where
  failed failure := by
    rw [none]
    exact Station.none_iff_unheard going failure
  going _ := going

theorem Settled.update {gateway : Gateway} (settled : gateway.Settled) (reception : Reception)
    (change : Inbox → Inbox) : (gateway.update reception change).Settled where
  failed failure := by
    refine (settled.failed failure).trans ⟨?_, ?_⟩ <;>
      exact fun unheard => ⟨unheard.about, unheard.deaf, unheard.opcode⟩
  going := settled.going

private theorem failure_of_running {gateway : Gateway} (running : gateway.isRunning = true) :
    gateway.failure = none := by
  unfold isRunning state at running
  split at running
  · cases running
  all_goals assumption

private theorem stage_prepare (gateway : Gateway) (happening : Happening) :
    (gateway.prepare happening).failure = gateway.failure ∧
      (gateway.prepare happening).station.session = gateway.station.session := by
  cases happening with
  | sent bytes =>
    unfold prepare
    dsimp only
    split <;> exact ⟨rfl, rfl⟩
  | elapsed | hungUp | deafened | interrupted | publisher => exact ⟨rfl, rfl⟩

private theorem settled_step (gateway : Gateway) (happening : Happening)
    (settled : gateway.Settled) :
    (gateway.step happening).1.Settled := by
  cases running : gateway.isRunning with
  | false =>
    rw [step, running]
    exact settled
  | true =>
    obtain ⟨failure, session⟩ := gateway.stage_prepare happening
    have none := failure_of_running running
    rw [step_of_running running]
    cases busy : (gateway.prepare happening).isBusy with
    | true =>
      have still : (gateway.prepare happening).Settled :=
        settled_of_going (failure.trans none) (session ▸ settled.going none)
      rw [work_of_busy busy]
      dsimp only
      exact still.update _ _
    | false =>
      have ran (limit : Nat) : ((gateway.prepare happening).runUntil limit).1.Settled :=
        ⟨Station.unheard_runUntil_iff limit _, Station.going_of_runUntil limit _⟩
      rw [work_of_idle busy]
      dsimp only
      exact (ran _).update _ _

theorem state_failed_iff {gateway : Gateway} (settled : gateway.Settled)
    (failure : CommandFailure) :
    gateway.state = .failed failure ↔ gateway.station.Unheard failure := by
  rw [← settled.failed failure, state]
  split
  · rename_i other found
    simp [found]
  · rename_i none _
    simp [none]
  · rename_i none _
    simp [none]

theorem state_ended_iff {gateway : Gateway} (settled : gateway.Settled) (reason : String) :
    gateway.state = .ended reason ↔ gateway.station.session.stage = .fatal reason := by
  unfold state
  split
  · rename_i failure found
    have unheard := (settled.failed failure).mp found
    simp [unheard.about]
  · rename_i same
    simp [same]
  · rename_i alive
    refine ⟨nofun, ?_⟩
    intro dead
    exact absurd dead (alive reason)

section Opened

variable (plan : Plan) (publisher : Publisher) (happenings : List Happening)

theorem settled_run : ((plan.start publisher).1.run happenings).1.Settled := by
  refine run_keeps settled_step ?_ happenings
  rw [Plan.start, start_eq]
  exact settled_of_going rfl (by simp [Session.enterEpoch])

theorem alike_start : (plan.start publisher).1.station.around.publisher.Alike publisher := by
  rw [Plan.start, start_eq]
  exact Station.alike_opened (.create plan.buttons.addresses plan.epochLength publisher)

/-- The first thing that a connection does is to announce the gateway offline. -/
theorem effects_start : ∃ rest, (plan.start publisher).2 = .announce false :: rest ∧
    .announce false ∉ rest ∧ rest.filter Effect.isAnswer = [] := by
  rw [Plan.start, start_eq]
  refine ⟨_, rfl, ?_, ?_⟩
  · split <;> simp
  · rw [List.filter_append, Session.answers_commands]
    split <;> rfl

/-- It does not do so again. -/
theorem online_run : .announce false ∉ ((plan.start publisher).1.run happenings).2 := by
  have nothing : (plan.start publisher).1.station.inbox.expected = [] :=
    expected_start plan.filter plan.buttons plan.epochLength publisher
  obtain ⟨log, course, -, done⟩ := reaches_run nothing happenings
  rw [← done]
  refine (Station.online_of_course course ?_).2
  rw [Plan.start, start_eq]
  simp [Session.enterEpoch]

variable {plan publisher}

/-- A daemon that hangs up at once ends the connection at once. -/
theorem run_hungUp (positive : 0 < plan.epochLength) (up : publisher.up = true) :
    ((plan.start publisher).1.run [.hungUp]).1.station.session.stage =
        .fatal (Notice.fatal "Daemon closed the connection").text ∧
      ((plan.start publisher).1.run [.hungUp]).1.station.around = ⟨0, publisher, none⟩ := by
  let fresh := Station.create plan.buttons.addresses plan.epochLength publisher
  let connected : Gateway :=
    ⟨0, .start plan.filter 0 Reception.standardTimeout (by decide),
      { fresh with session := fresh.session.enterEpoch 0, noticesFirst := true }, none⟩
  let station := (connected.prepare .hungUp).station
  have begun : (plan.start publisher).1 = connected := by
    have repaired : Session.repair ⟨0, publisher, none⟩ = (⟨0, publisher, none⟩, []) := if_pos up
    rw [Plan.start, start_eq, repaired]
    rfl
  have early : station.session.isOver station.around.clock = false := by
    have later : 0 < min plan.epochLength Session.maxEpochLength :=
      Nat.lt_min.mpr ⟨positive, by decide⟩
    have ahead : ¬ 0 + min plan.epochLength Session.maxEpochLength ≤ 0 := by omega
    exact Bool.and_eq_false_iff.mpr (.inl (decide_eq_false ahead))
  have turn : station.turn = .handled (.fatal "Daemon closed the connection") [] := by
    unfold Station.turn Session.turn
    rw [if_neg (Bool.eq_false_iff.mp early)]
    rfl
  have step : station.step? (fun instant => decide (instant ≤ 0)) =
      some (station.handle (.fatal "Daemon closed the connection") []) := by
    rw [Station.step?, turn]
  have ran : ((connected.prepare .hungUp).runUntil 0).1.station =
      (station.handle (.fatal "Daemon closed the connection") []).1.waitAnew := by
    change (station.runUntil 0).1 = _
    rw [Station.runUntil_of_step rfl step, Station.runUntil_of_dead rfl]
  have worked : (connected.run [.hungUp]).1 =
      ((connected.prepare .hungUp).runUntil 0).1.update (connected.prepare .hungUp).reception
        (·.arrive 0) := by
    change (connected.step .hungUp).1 = _
    rw [step_of_running rfl]
    rfl
  rw [begun, worked, update]
  dsimp only
  rw [ran]
  exact ⟨rfl, rfl⟩

end Opened

end Gateway

end ButtonGateway
