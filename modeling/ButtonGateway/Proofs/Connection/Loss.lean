import ButtonGateway.Proofs.Supervision.Run
/-!
The loss of a connection. A fatal notice that waits in the inbox ends the session in silence, unless
the end of the epoch comes first: then the session asks the daemon once more, and if that does not
take the command, the whole run fails instead of beginning anew.
-/
namespace ButtonGateway

namespace GestureTracker

/-- What notices mean never writes to the daemon. -/
theorem commands_observeAll (tracker : GestureTracker) (notices : List Notice) :
    Effect.commands (tracker.observeAll notices).2 = [] := by
  induction notices generalizing tracker with
  | nil => rfl
  | cons notice rest ih =>
    rw [observeAll_cons, Effect.commands, List.filterMap_append, List.append_eq_nil_iff]
    refine ⟨List.filterMap_eq_nil_iff.mpr ?_, ih _⟩
    intro effect member
    have spared := not_isRefresh_observe tracker notice effect member
    cases effect with
    | command => cases spared
    | announce | publish | reconnect => rfl

end GestureTracker

namespace Station

variable {station next : Station} {notice : Notice} {front back rest : List Notice}

/-- The epoch is found over on the way through some notices: it is due to end, and before one of
them or behind the last no hold is pending. -/
def EndsWithin (station : Station) (front : List Notice) : Prop :=
  station.session.deadline ≤ station.around.clock ∧
    ∃ early, early <+: front ∧ (station.session.tracker.observeAll early).1.Free

private theorem handle_of_alive (alive : notice.isFatal = false) (station : Station)
    (rest : List Notice) :
    (station.handle notice rest).2 = (station.session.tracker.observe notice).2 ∧
      (station.handle notice rest).1.session.tracker =
        (station.session.tracker.observe notice).1 ∧
      (station.handle notice rest).1.session.deadline = station.session.deadline ∧
      (station.handle notice rest).1.session.stage = station.session.stage := by
  unfold handle
  rw [Session.consume_of_alive alive]
  exact ⟨rfl, rfl, rfl, rfl⟩

private theorem runUntil_of_turn_handled (running : station.session.stage = .dispatching)
    (turn : station.turn = .handled notice rest) (limit : Nat) :
    station.runUntil limit =
      (((station.handle notice rest).1.waitAnew.runUntil limit).1,
        (station.handle notice rest).2 ++
          ((station.handle notice rest).1.waitAnew.runUntil limit).2.1,
        ((station.handle notice rest).1.waitAnew.runUntil limit).2.2) := by
  apply runUntil_of_step running
  rw [step?, turn]

/-- While the clock stands still, the session handles the notice that waits longest and runs on with
those behind it. -/
structure Passes (station : Station) (notice : Notice) (rest : List Notice) (next : Station) :
    Prop where
  tracker : next.session.tracker = (station.session.tracker.observe notice).1
  deadline : next.session.deadline = station.session.deadline
  running : next.session.stage = .dispatching
  waiting : next.inbox.waiting = rest
  around : next.around = station.around
  run (limit : Nat) : station.runUntil limit =
    ((next.runUntil limit).1,
      (station.session.tracker.observe notice).2 ++ (next.runUntil limit).2.1,
      (next.runUntil limit).2.2)

private theorem turn_of_not_over (counted : station.session.tracker.Counted)
    (waiting : station.inbox.waiting = notice :: rest)
    (going : ¬ (station.session.deadline ≤ station.around.clock ∧ station.session.tracker.Free)) :
    station.turn = .handled notice rest :=
  turn_of_waiting (Bool.eq_false_iff.mpr fun past => going ((Session.isOver_iff counted _).mp past))
    waiting

/-- A notice that is not fatal is passed, unless the epoch is over before it. -/
theorem exists_passes (counted : station.session.tracker.Counted)
    (running : station.session.stage = .dispatching)
    (waiting : station.inbox.waiting = notice :: rest) (alive : notice.isFatal = false)
    (going : ¬ (station.session.deadline ≤ station.around.clock ∧ station.session.tracker.Free)) :
    ∃ next, station.Passes notice rest next := by
  obtain ⟨done, tracker, deadline, stage⟩ := station.handle_of_alive alive rest
  refine ⟨(station.handle notice rest).1.waitAnew, tracker, deadline, stage.trans running, rfl, rfl,
    ?_⟩
  intro limit
  rw [runUntil_of_turn_handled running (turn_of_not_over counted waiting going), done]

theorem Passes.counted (passes : station.Passes notice rest next)
    (counted : station.session.tracker.Counted) : next.session.tracker.Counted :=
  passes.tracker ▸ GestureTracker.counted_observe counted notice

/-- The epoch is over before the first notice, or it is found over on the way through the others. -/
theorem Passes.endsWithin_cons_iff (passes : station.Passes notice rest next) :
    station.EndsWithin (notice :: front) ↔
      (station.session.deadline ≤ station.around.clock ∧ station.session.tracker.Free) ∨
        next.EndsWithin front := by
  unfold EndsWithin
  rw [passes.tracker, passes.deadline, passes.around]
  simp only [List.prefix_cons_iff, or_and_right, exists_or, exists_eq_left, and_or_left]
  refine or_congr Iff.rfl (and_congr_right fun _ => ?_)
  constructor
  · rintro ⟨_, ⟨early, rfl, within⟩, free⟩
    rw [GestureTracker.observeAll_cons] at free
    exact ⟨early, within, free⟩
  · rintro ⟨early, within, free⟩
    refine ⟨_, ⟨early, rfl, within⟩, ?_⟩
    rwa [GestureTracker.observeAll_cons]

/-- What the notices in front mean, the one that is passed first. -/
theorem Passes.observeAll_cons (passes : station.Passes notice rest next) (front : List Notice) :
    (station.session.tracker.observeAll (notice :: front)).2 =
      (station.session.tracker.observe notice).2 ++
        (next.session.tracker.observeAll front).2 := by
  rw [GestureTracker.observeAll_cons, passes.tracker]

private theorem runUntil_of_turn_timedOut (running : station.session.stage = .dispatching)
    (turn : station.turn = .ended .epochTimedOut) (limit : Nat) :
    station.runUntil limit = (station.finish .epochTimedOut).waitAnew.runUntil limit := by
  have step : station.step? (fun instant => decide (instant ≤ limit)) =
      some (station.finish .epochTimedOut, []) := by
    rw [step?, turn]
  rw [runUntil_of_step running step]
  rfl

/-- A session between two epochs whose daemon takes no command fails. -/
theorem runUntil_of_deaf (expired : station.session.stage = .epochTimedOut) {fault : Fault}
    (deaf : station.around.broken = some fault) (limit : Nat) :
    station.runUntil limit = (station, [], some ⟨Daemon.Command.getInfo.opcode, fault⟩) := by
  rw [runUntil]
  split
  · rename_i fresh
    cases expired.symm.trans fresh
  · rename_i dead
    cases expired.symm.trans dead
  · split
    · rename_i refused
      cases (refresh_of_deaf deaf).symm.trans refused
      rfl
    · rename_i begun
      cases (refresh_of_deaf deaf).symm.trans begun
  · rename_i running
    cases expired.symm.trans running

/-- A session between two epochs whose daemon listens asks it for its state. -/
theorem runUntil_of_listening (expired : station.session.stage = .epochTimedOut)
    (listening : station.around.broken = none) (limit : Nat) :
    ∃ further, (station.runUntil limit).2.1 = .command .getInfo :: further := by
  rw [runUntil]
  split
  · rename_i fresh
    cases expired.symm.trans fresh
  · rename_i dead
    cases expired.symm.trans dead
  · split
    · rename_i refused
      cases (refresh_of_listening listening).symm.trans refused
    · rename_i begun
      cases (refresh_of_listening listening).symm.trans begun
      split <;> exact ⟨_, rfl⟩
  · rename_i running
    cases expired.symm.trans running

/-- If the epoch is not found over on the way to a fatal notice, all notices before it are handled,
and it ends the session. -/
theorem runUntil_of_not_endsWithin (counted : station.session.tracker.Counted)
    (running : station.session.stage = .dispatching)
    (waiting : station.inbox.waiting = front ++ notice :: back)
    (alive : ∀ other ∈ front, other.isFatal = false) (fatal : notice.isFatal = true)
    (going : ¬ station.EndsWithin front) (limit : Nat) :
    ∃ last, station.runUntil limit = (last, (station.session.tracker.observeAll front).2, none) ∧
      last.session.stage = .fatal notice.text ∧ last.inbox.waiting = back ∧
      last.around = station.around := by
  -- The induction is on the notices before the fatal one; the clock stands still meanwhile.
  induction front generalizing station with
  | nil =>
    have turn := turn_of_not_over counted waiting fun past =>
      going ⟨past.1, [], List.prefix_rfl, past.2⟩
    obtain ⟨silent, -, stage⟩ := Session.consume_of_fatal fatal station.session
    have dead : (station.handle notice back).1.waitAnew.session.stage = .fatal notice.text := stage
    have quiet : (station.handle notice back).2 = [] := silent
    refine ⟨(station.handle notice back).1.waitAnew, ?_, dead, rfl, rfl⟩
    rw [runUntil_of_turn_handled running turn, runUntil_of_dead dead, quiet]
    rfl
  | cons first others ih =>
    obtain ⟨spared, aliveToo⟩ := List.forall_mem_cons.mp alive
    have ongoing : ¬ (station.session.deadline ≤ station.around.clock ∧
        station.session.tracker.Free) := fun past => going ⟨past.1, [], List.nil_prefix, past.2⟩
    obtain ⟨next, passes⟩ := exists_passes counted running waiting spared ongoing
    obtain ⟨last, run, dead, left, around⟩ :=
      ih (passes.counted counted) passes.running passes.waiting aliveToo
        fun ends => going (passes.endsWithin_cons_iff.mpr (.inr ends))
    refine ⟨last, ?_, dead, left, around.trans passes.around⟩
    rw [passes.run, run, passes.observeAll_cons]

/-- The run comes to the end of the epoch while a fatal notice waits behind others. -/
def ComesToEnd (station : Station) (front : List Notice) (notice : Notice) (back : List Notice)
    (limit : Nat) : Prop :=
  ∃ (middle : Station) (early late : List Notice), front = early ++ late ∧
    middle.session.stage = .epochTimedOut ∧ middle.inbox.waiting = late ++ notice :: back ∧
    middle.around = station.around ∧
    station.runUntil limit = ((middle.runUntil limit).1,
      (station.session.tracker.observeAll early).2 ++ (middle.runUntil limit).2.1,
      (middle.runUntil limit).2.2)

private theorem comesToEnd_of_over (counted : station.session.tracker.Counted)
    (running : station.session.stage = .dispatching)
    (waiting : station.inbox.waiting = front ++ notice :: back)
    (past : station.session.deadline ≤ station.around.clock ∧ station.session.tracker.Free)
    (limit : Nat) : station.ComesToEnd front notice back limit := by
  refine ⟨(station.finish .epochTimedOut).waitAnew, [], front, rfl, rfl, waiting, rfl, ?_⟩
  rw [runUntil_of_turn_timedOut running ((turn_timedOut_iff counted).mpr past)]
  rfl

/-- Otherwise the session comes to the end of its epoch while the fatal notice still waits. -/
theorem comesToEnd_of_endsWithin (counted : station.session.tracker.Counted)
    (running : station.session.stage = .dispatching)
    (waiting : station.inbox.waiting = front ++ notice :: back)
    (alive : ∀ other ∈ front, other.isFatal = false) (ends : station.EndsWithin front)
    (limit : Nat) : station.ComesToEnd front notice back limit := by
  induction front generalizing station with
  | nil =>
    obtain ⟨due, early, within, free⟩ := ends
    cases List.prefix_nil.mp within
    exact comesToEnd_of_over counted running waiting ⟨due, free⟩ limit
  | cons first others ih =>
    obtain ⟨spared, aliveToo⟩ := List.forall_mem_cons.mp alive
    by_cases past : station.session.deadline ≤ station.around.clock ∧ station.session.tracker.Free
    · exact comesToEnd_of_over counted running waiting past limit
    · obtain ⟨next, passes⟩ := exists_passes counted running waiting spared past
      obtain ⟨middle, early, late, split, expired, left, around, run⟩ :=
        ih (passes.counted counted) passes.running passes.waiting aliveToo
          ((passes.endsWithin_cons_iff.mp ends).resolve_left past)
      refine ⟨middle, first :: early, late, congrArg (first :: ·) split, expired, left,
        around.trans passes.around, ?_⟩
      rw [passes.run, run, passes.observeAll_cons, List.append_assoc]

/-- A fatal notice waits behind the last of those that waited before it. -/
def Awaits (station : Station) (front : List Notice) (notice : Notice) : Prop :=
  ∃ late more, late <:+ front ∧ station.inbox.waiting = late ++ notice :: more

/-- How a session stands while it comes nearer to a fatal notice: the notice waits, and the epoch
may have ended before it was handled, or the notice has ended the session. -/
inductive Nears (front : List Notice) (notice : Notice) (station : Station) : Prop where
  | waits (running : station.session.stage = .dispatching) (awaits : station.Awaits front notice)
  | expires (expired : station.session.stage = .epochTimedOut)
      (awaits : station.Awaits front notice)
  | dies (dead : station.session.stage = .fatal notice.text)

/-- While something waits, a session ends its epoch or handles what waits longest. -/
theorem turn_of_busy (busy : station.inbox.waiting ≠ []) :
    station.turn = .ended .epochTimedOut ∨
      ∃ first rest, station.turn = .handled first rest := by
  cases past : station.session.isOver station.around.clock with
  | true =>
    unfold turn Session.turn
    exact .inl (if_pos past)
  | false =>
    obtain ⟨first, rest, waiting⟩ := List.exists_cons_of_ne_nil busy
    exact .inr ⟨first, rest, turn_of_waiting past waiting⟩

theorem Awaits.busy (awaits : station.Awaits front notice) : station.inbox.waiting ≠ [] := by
  obtain ⟨late, more, -, waiting⟩ := awaits
  simp [waiting]

/-- A session that takes a notice out of its inbox comes nearer. -/
theorem nears_handle {first : Notice} (running : station.session.stage = .dispatching)
    (alive : ∀ other ∈ front, other.isFatal = false) (fatal : notice.isFatal = true)
    (awaits : station.Awaits front notice) (taken : station.inbox.waiting = first :: rest) :
    (station.handle first rest).1.Nears front notice := by
  obtain ⟨late, more, behind, waiting⟩ := awaits
  rw [taken] at waiting
  cases late with
  | nil =>
    obtain ⟨rfl, rfl⟩ := List.cons.inj waiting
    exact .dies (Session.consume_of_fatal fatal station.session).2.2
  | cons head others =>
    obtain ⟨rfl, rfl⟩ := List.cons.inj waiting
    have spared := alive first (behind.mem List.mem_cons_self)
    obtain ⟨-, -, -, stage⟩ := station.handle_of_alive spared (others ++ notice :: more)
    have further := (List.suffix_cons first others).trans behind
    exact .waits (stage.trans running) ⟨others, more, further, rfl⟩

/-- On any move the session comes nearer or stays, unless its epoch has ended. -/
theorem Nears.move {lines : Log} (alive : ∀ other ∈ front, other.isFatal = false)
    (fatal : notice.isFatal = true) (nears : station.Nears front notice)
    (going : station.session.stage ≠ .epochTimedOut) (move : Move station lines next) :
    next.Nears front notice := by
  cases nears with
  | expires expired => exact absurd expired going
  | dies dead =>
    -- A dead session makes no move of its own.
    cases move with
    | meanwhile change => exact .dies (change.session ▸ dead)
    | refuse => exact .dies dead
    | start stage | refresh stage | finish stage | handle stage | receive stage | close stage =>
      cases stage.symm.trans dead
  | waits running awaits =>
    have busy := turn_of_busy awaits.busy
    cases move with
    | @meanwhile _ arrivals change =>
      obtain ⟨late, more, behind, waiting⟩ := awaits
      refine .waits (change.session ▸ running) ⟨late, more ++ arrivals, behind, ?_⟩
      rw [change.waiting, waiting, List.append_assoc, List.cons_append]
    | start stage | refuse stage | refresh stage => cases stage.symm.trans running
    | finish _ ended =>
      rcases busy with past | ⟨first, rest, handled⟩
      · cases ended.symm.trans past
        exact .expires rfl awaits
      · cases ended.symm.trans handled
    | handle _ first => exact nears_handle running alive fatal awaits (waiting_of_turn first)
    | receive _ idle | close _ idle =>
      rcases busy with past | ⟨first, rest, handled⟩
      · cases idle.symm.trans past
      · cases idle.symm.trans handled

/-- And no epoch begins. -/
theorem Nears.openings {lines : Log} (nears : station.Nears front notice)
    (going : station.session.stage ≠ .epochTimedOut) (move : Move station lines next) :
    openings lines = [] := by
  rcases move.begins_or_keeps with ⟨_, _, _, about⟩ | ⟨silent, _, _⟩
  · rcases about with ⟨fresh, _⟩ | ⟨expired, _⟩
    · cases nears with
      | waits stage | expires stage | dies stage => cases fresh.symm.trans stage
    · exact absurd expired going
  · exact silent

/-- The commands of a log belong to beginnings of epochs. -/
theorem commands_openings (lines : Log) :
    Effect.commands (openings lines) = Effect.commands lines.effects := by
  unfold Effect.commands Station.openings
  rw [List.filterMap_filter]
  congr 1
  funext effect
  cases effect <;> rfl

/-- At any pace: on the way to a fatal notice nothing is written to the daemon, unless the epoch
ends while the notice waits. -/
theorem Way.expires_or_silent {steps : List Step} {last : Station}
    (alive : ∀ other ∈ front, other.isFatal = false) (fatal : notice.isFatal = true)
    (running : station.session.stage = .dispatching) (awaits : station.Awaits front notice)
    (way : Way station steps last) :
    (∃ step ∈ steps, step.after.session.stage = .epochTimedOut ∧
        step.after.Awaits front notice) ∨
      Effect.commands (Step.log steps).effects = [] ∧
        (last.session.stage = .fatal notice.text ∨
          last.session.stage = .dispatching ∧ last.Awaits front notice) := by
  induction way with
  | stay => exact .inr ⟨rfl, .inr ⟨running, awaits⟩⟩
  | @move steps middle next lines before move ih =>
    rcases ih with ⟨step, member, expired⟩ | ⟨silent, stands⟩
    · exact .inl ⟨step, List.mem_append_left _ member, expired⟩
    · have nears : middle.Nears front notice := stands.elim .dies fun stands =>
        .waits stands.1 stands.2
      have going : middle.session.stage ≠ .epochTimedOut := by
        rcases stands with dead | ⟨running, _⟩
        · simp [dead]
        · simp [running]
      have quiet : Effect.commands lines.effects = [] := by
        rw [← commands_openings, nears.openings going move]
        rfl
      have silentToo :
          Effect.commands (Step.log (steps ++ [⟨middle, lines, next⟩])).effects = [] := by
        rw [Step.log, List.flatMap_append, Log.effects_append, Effect.commands,
          List.filterMap_append]
        exact List.append_eq_nil_iff.mpr ⟨silent, by simpa [Effect.commands] using quiet⟩
      cases nears.move alive fatal going move with
      | waits running awaits => exact .inr ⟨silentToo, .inr ⟨running, awaits⟩⟩
      | expires expired awaits =>
        exact .inl ⟨⟨middle, lines, next⟩, by simp, expired, awaits⟩
      | dies dead => exact .inr ⟨silentToo, .inl dead⟩

end Station

section Loss

variable {addresses : PerSlot (Option Address)} {epochLength : Nat} {publisher : Publisher}
  {log : Log} {station : Station} {notice : Notice} {front back : List Notice}

namespace Supervision

/-- An attempt whose session is ended by a fatal notice is followed by another one. -/
theorem standing_runUntil_of_fatal {gateway : Gateway} {last : Station} {effects : List Effect}
    {limit : Nat} (run : gateway.station.runUntil limit = (last, effects, none)) {reason : String}
    (dead : last.session.stage = .fatal reason) (supervision : Supervision) (opening : Nat) :
    supervision.standing opening (gateway.runUntil limit).1 =
      supervision.again last.around.publisher (some (opening + last.around.clock)) := by
  unfold standing Gateway.state Gateway.runUntil
  rw [run]
  dsimp only
  rw [dead]

private theorem standing_runUntil_of_failure {gateway : Gateway} {last : Station}
    {effects : List Effect}
    {limit : Nat} {failure : CommandFailure}
    (run : gateway.station.runUntil limit = (last, effects, some failure))
    (supervision : Supervision) (opening : Nat) :
    supervision.standing opening (gateway.runUntil limit).1 = .failed failure := by
  unfold standing Gateway.state Gateway.runUntil
  rw [run]

end Supervision

namespace Gateway

theorem snd_runUntil (gateway : Gateway) (limit : Nat) :
    (gateway.runUntil limit).2 = (gateway.station.runUntil limit).2.1 := rfl

end Gateway

namespace Station

/-- A lost connection leads to another attempt, in silence towards the daemon, unless the epoch ends
while the notice of the loss still waits. This holds at any pace of the session: as long as no epoch
has ended it writes nothing, and it has come to the notice or still waits for its turn. If the clock
stands still meanwhile, the epoch ends in between exactly if it is due to end and no hold is pending
before one of the notices in front or behind them. Then the daemon is asked for its state once more;
if it takes no command, the whole run fails instead. -/
theorem loss_leads_to_attempt_unless_epoch_ends
    (course : Course (create addresses epochLength publisher) log station)
    (running : station.session.stage = .dispatching)
    (waiting : station.inbox.waiting = front ++ notice :: back)
    (alive : ∀ other ∈ front, other.isFatal = false) (fatal : notice.isFatal = true) :
    (∀ steps last, Way station steps last →
      (∃ step ∈ steps, step.after.session.stage = .epochTimedOut ∧
          step.after.Awaits front notice) ∨
        Effect.commands (Step.log steps).effects = [] ∧
          (last.session.stage = .fatal notice.text ∨
            last.session.stage = .dispatching ∧ last.Awaits front notice)) ∧
    ∀ (supervision : Supervision) (opening limit : Nat) (gateway : Gateway),
      gateway.station = station →
      (¬ station.EndsWithin front →
        Effect.commands (gateway.runUntil limit).2 = [] ∧
        (gateway.runUntil limit).1.station.session.stage = .fatal notice.text ∧
        supervision.standing opening (gateway.runUntil limit).1 =
          supervision.again station.around.publisher
            (some (opening + station.around.clock))) ∧
      (station.EndsWithin front →
        match station.around.broken with
        | some fault =>
          Effect.commands (gateway.runUntil limit).2 = [] ∧
          supervision.standing opening (gateway.runUntil limit).1 =
            .failed ⟨Daemon.Command.getInfo.opcode, fault⟩
        | none => .getInfo ∈ Effect.commands (gateway.runUntil limit).2) := by
  have counted := counted_of_course course
  refine ⟨?_, ?_⟩
  · intro steps last way
    exact way.expires_or_silent alive fatal running ⟨front, back, List.suffix_rfl, waiting⟩
  · rintro supervision opening limit gateway rfl
    constructor
    · intro going
      obtain ⟨last, run, dead, -, around⟩ :=
        runUntil_of_not_endsWithin counted running waiting alive fatal going limit
      refine ⟨?_, ?_, ?_⟩
      · rw [Gateway.snd_runUntil, run]
        exact GestureTracker.commands_observeAll _ _
      · rw [Gateway.runUntil, run]
        exact dead
      · rw [Supervision.standing_runUntil_of_fatal run dead, around]
    · intro ends
      obtain ⟨middle, early, late, -, expired, -, around, run⟩ :=
        comesToEnd_of_endsWithin counted running waiting alive ends limit
      have quiet := gateway.station.session.tracker.commands_observeAll early
      cases broken : gateway.station.around.broken with
      | some fault =>
        have deaf := runUntil_of_deaf expired (around ▸ broken) limit
        rw [deaf, List.append_nil] at run
        refine ⟨?_, Supervision.standing_runUntil_of_failure run supervision opening⟩
        rw [Gateway.snd_runUntil, run]
        exact quiet
      | none =>
        obtain ⟨further, asks⟩ := runUntil_of_listening expired (around ▸ broken) limit
        rw [Gateway.snd_runUntil, run, asks, Effect.commands, List.filterMap_append,
          ← Effect.commands, quiet]
        exact List.mem_cons_self

end Station

end Loss

namespace Station

/-- An epoch of a minute that is overdue for half a minute because of a hold, while some notices
wait and the daemon takes no command. -/
def overdueForHold (waiting : List Notice) : Station :=
  let hold := Notice.ofText .upDown 5 0 "Hold"
  let started := (create SlotTable.empty.addresses 60 ⟨true, true, 0⟩).opened
  let held := ({ started with inbox := started.inbox.put [hold] }.handle hold []).1
  { held with
    inbox := held.inbox.put waiting
    around := ⟨90, ⟨true, true, 0⟩, some (.stream "broken pipe")⟩ }

private theorem course_overdueForHold (waiting : List Notice) :
    ∃ log, Course (create SlotTable.empty.addresses 60 ⟨true, true, 0⟩) log
      (overdueForHold waiting) := by
  let hold := Notice.ofText .upDown 5 0 "Hold"
  let fresh := create SlotTable.empty.addresses 60 ⟨true, true, 0⟩
  let started := fresh.opened
  let asked := { started with inbox := started.inbox.put [hold] }
  let held := (asked.handle hold []).1
  have begun : Course fresh _ started := .ofMove (.start rfl (start_of_listening rfl))
  have arrived : Course fresh _ asked := begun.trans (Meanwhile.course ⟨rfl, rfl, Nat.le_refl 0⟩)
  have handled : Course fresh _ held := .move arrived (.handle rfl rfl)
  exact ⟨_, handled.trans (Meanwhile.course ⟨rfl, rfl, Nat.zero_le 90⟩)⟩

/-- The hold keeps the epoch open until the notice of the loss is handled. -/
theorem loss_during_hold_leads_to_attempt :
    (Notice.fatal "Daemon closed the connection").isFatal = true ∧
    (overdueForHold [.fatal "Daemon closed the connection"]).session.stage = .dispatching ∧
    ∀ (supervision : Supervision) (opening : Nat) (gateway : Gateway),
      gateway.station = overdueForHold [.fatal "Daemon closed the connection"] →
      Effect.commands (gateway.runUntil 90).2 = [] ∧
      supervision.standing opening (gateway.runUntil 90).1 =
        supervision.again ⟨true, true, 0⟩ (some (opening + 90)) := by
  let loss := Notice.fatal "Daemon closed the connection"
  have fatal : loss.isFatal = true := rfl
  have running : (overdueForHold [loss]).session.stage = .dispatching := rfl
  have waiting : (overdueForHold [loss]).inbox.waiting = [] ++ loss :: [] := rfl
  have going : ¬ (overdueForHold [loss]).EndsWithin [] := by
    rintro ⟨-, early, within, free⟩
    cases List.prefix_nil.mp within
    cases free ⟨0, by decide⟩
  obtain ⟨log, course⟩ := course_overdueForHold [loss]
  refine ⟨fatal, running, ?_⟩
  intro supervision opening gateway here
  have lost := loss_leads_to_attempt_unless_epoch_ends course running waiting nofun fatal
  obtain ⟨silent, -, again⟩ := (lost.2 supervision opening 90 gateway here).1 going
  exact ⟨silent, again⟩

/-- The click that ends the hold lets the epoch end before the notice of the loss is handled: the
session asks the lost daemon for its state, and the run fails. -/
theorem loss_behind_last_hold_fails_run :
    ∃ (log : Log) (station : Station),
      Course (create SlotTable.empty.addresses 60 ⟨true, true, 0⟩) log station ∧
        station.session.stage = .dispatching ∧
        station.inbox.waiting =
          [.ofText .upDown 3 0 "SingleClick", .fatal "Daemon closed the connection"] ∧
        (station.runUntil 90).2.2 =
          some ⟨Daemon.Command.getInfo.opcode, .stream "broken pipe"⟩ ∧
        ∀ (supervision : Supervision) (opening : Nat) (gateway : Gateway),
          gateway.station = station → supervision.standing opening (gateway.runUntil 90).1 =
            .failed ⟨Daemon.Command.getInfo.opcode, .stream "broken pipe"⟩ := by
  let click := Notice.ofText .upDown 3 0 "SingleClick"
  let loss := Notice.fatal "Daemon closed the connection"
  let station := overdueForHold [click, loss]
  have running : station.session.stage = .dispatching := rfl
  have waiting : station.inbox.waiting = [click] ++ loss :: [] := rfl
  have ends : station.EndsWithin [click] := by
    refine ⟨by decide, [click], List.prefix_rfl, ?_⟩
    unfold GestureTracker.Free
    decide
  obtain ⟨log, course⟩ := course_overdueForHold [click, loss]
  have counted : station.session.tracker.Counted := counted_of_course course
  obtain ⟨middle, early, late, -, expired, -, around, run⟩ :=
    comesToEnd_of_endsWithin counted running waiting (by decide) ends 90
  have deaf : middle.around.broken = some (.stream "broken pipe") := congrArg (·.broken) around
  rw [runUntil_of_deaf expired deaf] at run
  refine ⟨log, station, course, running, waiting, congrArg (·.2.2) run, ?_⟩
  intro supervision opening gateway here
  rw [← here] at run
  exact Supervision.standing_runUntil_of_failure run supervision opening

end Station

end ButtonGateway
