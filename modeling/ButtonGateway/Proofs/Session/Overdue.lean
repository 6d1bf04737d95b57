import ButtonGateway.Proofs.Session.Delivery

namespace ButtonGateway

namespace Session

theorem isOver_iff {session : Session} (counted : session.tracker.Counted) (now : Nat) :
    session.isOver now = true ↔ session.deadline ≤ now ∧ session.tracker.Free := by
  rw [isOver, Bool.and_eq_true, decide_eq_true_iff, Bool.not_eq_true',
    GestureTracker.holdsPending_eq_false_iff counted]

theorem stage_consume (session : Session) (notice : Notice) :
    (session.consume notice).1.stage =
      if notice.isFatal then .fatal notice.text else session.stage := by
  cases fatal : notice.isFatal with
  | true => exact (consume_of_fatal fatal session).2.2
  | false => rw [consume_of_alive fatal, if_neg Bool.false_ne_true]

end Session

namespace Station

variable {station : Station}

/-- Without a notice an epoch ends because it is over, or because no notice can come any more. -/
theorem of_turn_ended {stage : Stage} (ended : station.turn = .ended stage) :
    (stage = .epochTimedOut ∧ station.session.isOver station.around.clock = true) ∨
      stage = .fatal "event channel closed" := by
  unfold turn Session.turn at ended
  split at ended
  · rename_i expired
    cases ended
    exact .inl ⟨rfl, expired⟩
  · split at ended
    · cases ended
    · split at ended
      · cases ended
        exact .inr rfl
      · cases ended

theorem turn_timedOut_iff (counted : station.session.tracker.Counted) :
    station.turn = .ended .epochTimedOut ↔
      station.session.deadline ≤ station.around.clock ∧ station.session.tracker.Free := by
  rw [← Session.isOver_iff counted]
  constructor
  · intro ended
    rcases of_turn_ended ended with ⟨_, expired⟩ | dead
    · exact expired
    · cases dead
  · intro expired
    unfold turn Session.turn
    rw [if_pos expired]

/-- A session whose epoch goes on turns to the notice that waits longest. -/
theorem turn_of_waiting (going : station.session.isOver station.around.clock = false)
    {notice : Notice} {rest : List Notice} (first : station.inbox.waiting = notice :: rest) :
    station.turn = .handled notice rest := by
  unfold turn Session.turn
  rw [if_neg (Bool.eq_false_iff.mp going), first]

private theorem turn_of_nothing (going : station.session.isOver station.around.clock = false)
    (nothing : station.inbox.waiting = []) :
    station.turn = if station.inbox.closed then .ended (.fatal "event channel closed")
      else .idle := by
  unfold turn Session.turn
  rw [if_neg (Bool.eq_false_iff.mp going), nothing]

private theorem isBeforeDeadline_of_overdue
    (overdue : station.session.deadline ≤ station.around.clock) :
    station.isBeforeDeadline = false := by
  rw [isBeforeDeadline, decide_eq_false_iff_not]
  exact Nat.not_lt.mpr overdue

/-- An overdue session that has nothing to handle waits for the next notice, however long. -/
theorem step_of_expected (overdue : station.session.deadline ≤ station.around.clock)
    (idle : station.turn = .idle) {instant : Nat} {notice : Notice} {later : List (Nat × Notice)}
    (next : station.inbox.expected = (instant, notice) :: later) :
    station.step? (fun _ => true) = some (station.receive instant) := by
  have awaits : station.awaited? = some (.arrival instant) := by
    simp [awaited?, next, endsBefore, isBeforeDeadline_of_overdue overdue]
  simp [step?, idle, awaitedBy?, awaits, await]

private theorem handle_store {notice head : Notice} {tail rest : List Notice}
    (first : station.inbox.waiting = head :: tail) (store : station.inbox.store = notice :: rest) :
    head = notice ∧ (station.handle head tail).1.inbox.store = rest := by
  have kept := store_handle station first
  rw [store] at kept
  exact List.cons.inj kept

/-- The notice that a session waits for is the first one that it handles when it arrives. -/
theorem receive_of_expected {instant : Nat} {notice : Notice} {later : List (Nat × Notice)}
    (nothing : station.inbox.waiting = [])
    (next : station.inbox.expected = (instant, notice) :: later) :
    ∃ (woken : Station) (rest : List Notice), station.receive instant = woken.handle notice rest ∧
      woken.inbox.waiting = notice :: rest ∧ woken.session = station.session ∧
      woken.inbox.store = station.inbox.store ∧ woken.inbox.last = station.inbox.last ∧
      station.around.clock ≤ woken.around.clock := by
  let woken := { station.setClock (max station.around.clock instant) with
    inbox := station.inbox.arrive (max station.around.clock instant) }
  have arrived : woken.inbox.waiting = notice :: (later.takeWhile
      (·.1 ≤ max station.around.clock instant)).map (·.2) := by
    change (station.inbox.arrive (max station.around.clock instant)).waiting = _
    simp [Inbox.arrive, nothing, next]
  refine ⟨woken, _, ?_, arrived, rfl, Inbox.store_arrive _ _, rfl, Nat.le_max_left _ _⟩
  change (station.inbox.arrive (max station.around.clock instant)).waiting = _ at arrived
  unfold receive
  dsimp only [setClock]
  rw [arrived]
  rfl

/-- An overdue session with a hold pending handles the next notice, whatever it is about. -/
theorem step_of_overdue (overdue : station.session.deadline ≤ station.around.clock)
    (going : station.session.isOver station.around.clock = false) {notice : Notice}
    {rest : List Notice} (store : station.inbox.store = notice :: rest) :
    ∃ next, station.step? (fun _ => true) = some (next, (station.session.consume notice).2) ∧
      next.session = (station.session.consume notice).1 ∧ next.inbox.store = rest ∧
      next.inbox.last = station.inbox.last ∧ station.around.clock ≤ next.around.clock := by
  cases waiting : station.inbox.waiting with
  | cons head tail =>
    obtain ⟨rfl, kept⟩ := handle_store waiting store
    refine ⟨(station.handle head tail).1, ?_, rfl, kept, rfl, Nat.le_refl _⟩
    rw [step?, turn_of_waiting going waiting]
    rfl
  | nil =>
    cases expected : station.inbox.expected with
    | nil => simp [Inbox.store, waiting, expected] at store
    | cons entry later =>
      have idle : station.turn = .idle := by
        rw [turn_of_nothing going waiting, Inbox.closed, expected]
        simp
      obtain ⟨woken, tail, received, first, session, sameStore, last, clock⟩ :=
        receive_of_expected waiting expected
      obtain ⟨rfl, kept⟩ := handle_store first (sameStore.trans store)
      refine ⟨(woken.handle entry.2 tail).1, ?_, ?_, kept, last, clock⟩
      · rw [step_of_expected overdue idle expected, received, ← session]
        rfl
      · rw [← session]
        rfl

/-- What an overdue session with a hold pending does when nothing is in store: it waits for what
will never come, or its inbox is closed. -/
theorem runEpoch_of_nothing (overdue : station.session.deadline ≤ station.around.clock)
    (running : station.session.stage = .dispatching)
    (going : station.session.isOver station.around.clock = false)
    (nothing : station.inbox.store = []) :
    station.runEpoch =
      (if station.inbox.last then station.finish (.fatal "event channel closed") else station,
        []) := by
  obtain ⟨waiting, expected⟩ := List.append_eq_nil_iff.mp nothing
  have unexpected : station.inbox.expected = [] := List.map_eq_nil_iff.mp expected
  have turn := turn_of_nothing going waiting
  cases last : station.inbox.last with
  | true =>
    have ended : station.turn = .ended (.fatal "event channel closed") := by
      rw [turn, Inbox.closed, last, unexpected]
      rfl
    have step : station.step? (fun _ => true) =
        some (station.finish (.fatal "event channel closed"), []) := by
      rw [step?, ended]
    rw [runEpoch_of_step running step, runEpoch_of_stopped (by simp [finish])]
    rfl
  | false =>
    have idle : station.turn = .idle := by
      rw [turn, Inbox.closed, last]
      rfl
    have stuck : station.step? (fun _ => true) = none := by
      simp [step?, idle, awaitedBy?, awaited?, unexpected, isBeforeDeadline_of_overdue overdue]
    rw [runEpoch_of_stuck stuck]
    rfl

/-- An epoch that is over ends before any notice. -/
theorem runEpoch_of_over (running : station.session.stage = .dispatching)
    (expired : station.turn = .ended .epochTimedOut) :
    station.runEpoch = (station.finish .epochTimedOut, []) := by
  have step : station.step? (fun _ => true) = some (station.finish .epochTimedOut, []) := by
    rw [step?, expired]
  rw [runEpoch_of_step running step, runEpoch_of_stopped (by simp [finish])]
  rfl

/-- How an overdue epoch goes over the notices in store, from the holds that are pending when it is
found overdue: to the holds afterwards, what the session does, the notices that stay and the
stage. -/
inductive Overrun (last : Bool) : GestureTracker → List Notice → GestureTracker → List Effect →
    List Notice → Stage → Prop where
  /-- No hold is pending. -/
  | expired {tracker : GestureTracker} {store : List Notice} (free : tracker.Free) :
      Overrun last tracker store tracker [] store .epochTimedOut
  | heard {tracker final : GestureTracker} {notice : Notice} {rest left : List Notice}
      {effects : List Effect} {stage : Stage} (held : ¬ tracker.Free)
      (alive : notice.isFatal = false)
      (further : Overrun last (tracker.observe notice).1 rest final effects left stage) :
      Overrun last tracker (notice :: rest) final ((tracker.observe notice).2 ++ effects) left stage
  | fatal {tracker : GestureTracker} {notice : Notice} {rest : List Notice}
      (held : ¬ tracker.Free) (fatal : notice.isFatal = true) :
      Overrun last tracker (notice :: rest) tracker [] rest (.fatal notice.text)
  /-- No notice is left to clear the hold. -/
  | nothing {tracker : GestureTracker} (held : ¬ tracker.Free) :
      Overrun last tracker [] tracker [] []
        (if last then .fatal "event channel closed" else .dispatching)

private theorem going_of_held (counted : station.session.tracker.Counted)
    (held : ¬ station.session.tracker.Free) :
    station.session.isOver station.around.clock = false := by
  rw [← Bool.not_eq_true, Session.isOver_iff counted]
  exact fun expired => held expired.2

/-- An overdue epoch goes on exactly as long as a hold is pending. -/
theorem overrun_runEpoch {store : List Notice} (counted : station.session.tracker.Counted)
    (running : station.session.stage = .dispatching)
    (overdue : station.session.deadline ≤ station.around.clock)
    (same : station.inbox.store = store) :
    Overrun station.inbox.last station.session.tracker store
      station.runEpoch.1.session.tracker station.runEpoch.2 station.runEpoch.1.inbox.store
      station.runEpoch.1.session.stage := by
  -- The induction is on the notices in store; what is expected moves into the inbox on the way.
  induction store generalizing station with
  | nil =>
    by_cases free : station.session.tracker.Free
    · rw [runEpoch_of_over running ((turn_timedOut_iff counted).mpr ⟨overdue, free⟩), ← same]
      exact .expired free
    · have stuck := runEpoch_of_nothing overdue running (going_of_held counted free) same
      have spent : Overrun station.inbox.last _ [] _ [] [] _ := .nothing free
      rw [stuck]
      cases last : station.inbox.last <;> simpa [last, finish, same, running] using spent
  | cons notice rest ih =>
    by_cases free : station.session.tracker.Free
    · rw [runEpoch_of_over running ((turn_timedOut_iff counted).mpr ⟨overdue, free⟩), ← same]
      exact .expired free
    · obtain ⟨next, step, session, store, last, clock⟩ :=
        step_of_overdue overdue (going_of_held counted free) same
      rw [runEpoch_of_step running step]
      cases fatal : notice.isFatal with
      | true =>
        obtain ⟨silent, tracker, stage⟩ := Session.consume_of_fatal fatal station.session
        rw [← session] at tracker stage
        rw [silent, runEpoch_of_stopped (by simp [stage])]
        dsimp only [List.append_nil]
        rw [tracker, store, stage]
        exact .fatal free fatal
      | false =>
        rw [Session.consume_of_alive fatal] at session ⊢
        have tracker := congrArg Session.tracker session
        have further := ih (tracker ▸ GestureTracker.counted_observe counted notice)
          (session ▸ running) (session ▸ Nat.le_trans overdue clock) store
        rw [tracker, last] at further
        exact .heard free fatal further

/-- Where no fatal notice comes first, an overdue epoch ends behind the first notice after which no
hold is pending. -/
theorem Overrun.until_free {last : Bool} {tracker final : GestureTracker}
    {front back left : List Notice} {effects : List Effect} {stage : Stage}
    (overrun : Overrun last tracker (front ++ back) final effects left stage)
    (alive : ∀ notice ∈ front, notice.isFatal = false)
    (held : ∀ earlier notice later, front = earlier ++ notice :: later →
      ¬ (tracker.observeAll earlier).1.Free)
    (free : (tracker.observeAll front).1.Free) :
    stage = .epochTimedOut ∧ left = back ∧ tracker.observeAll front = (final, effects) := by
  induction front generalizing tracker effects with
  | nil =>
    cases overrun with
    | expired => exact ⟨rfl, rfl, rfl⟩
    | heard pending => exact absurd free pending
    | fatal pending => exact absurd free pending
    | nothing pending => exact absurd free pending
  | cons notice rest ih =>
    rw [GestureTracker.observeAll_cons] at free ⊢
    cases overrun with
    | expired stopped => exact absurd stopped (held [] notice rest rfl)
    | fatal pending fatal => simp [alive notice] at fatal
    | heard pending spared further =>
      have later : ∀ earlier other later, rest = earlier ++ other :: later →
          ¬ ((tracker.observe notice).1.observeAll earlier).1.Free := by
        intro earlier other later same
        have before := held (notice :: earlier) other later (congrArg (notice :: ·) same)
        rwa [GestureTracker.observeAll_cons] at before
      obtain ⟨stage, left, answered⟩ := ih further
        (fun other member => alive other (List.mem_cons_of_mem notice member)) later free
      rw [answered]
      exact ⟨stage, left, rfl⟩

private theorem going_of_idle (idle : station.turn = .idle) :
    station.session.isOver station.around.clock = false := by
  cases expired : station.session.isOver station.around.clock with
  | false => rfl
  | true =>
    unfold turn Session.turn at idle
    rw [if_pos expired] at idle
    cases idle

/-- Where nothing can happen any more the epoch was due to end, and only a hold keeps it open. -/
theorem overdue_of_stuck (stuck : station.step? (fun _ => true) = none) :
    station.session.deadline ≤ station.around.clock ∧
      station.session.isOver station.around.clock = false := by
  unfold step? at stuck
  split at stuck
  · cases stuck
  · cases stuck
  · rename_i idle
    refine ⟨?_, going_of_idle idle⟩
    by_contra before
    have early : station.isBeforeDeadline = true := decide_eq_true (Nat.lt_of_not_le before)
    cases expected : station.inbox.expected with
    | nil => simp [awaitedBy?, awaited?, expected, early] at stuck
    | cons entry later =>
      cases ends : station.endsBefore entry.1 <;>
        simp [awaitedBy?, awaited?, expected, ends] at stuck

theorem overdue_of_blocked (blocked : station.runEpoch.1.session.stage = .dispatching) :
    station.runEpoch.1.session.deadline ≤ station.runEpoch.1.around.clock ∧
      station.runEpoch.1.session.isOver station.runEpoch.1.around.clock = false := by
  fun_induction runEpoch station with
  | case1 station running next step others ih => exact ih blocked
  | case2 station running stuck => exact overdue_of_stuck stuck
  | case3 station stage => cases stage.symm.trans blocked
  | case4 station stage => cases stage.symm.trans blocked
  | case5 station reason stage => cases stage.symm.trans blocked

/-- A step that takes the clock beyond the end of the epoch begins just then, with a hold
pending. -/
theorem going_of_step_beyond {next : Station × List Effect}
    (step : station.step? (fun _ => true) = some next)
    (early : station.around.clock ≤ station.session.deadline)
    (beyond : station.session.deadline < next.1.around.clock) :
    station.around.clock = station.session.deadline ∧
      station.session.isOver station.around.clock = false := by
  unfold step? at step
  split at step
  · cases step
    exact absurd beyond (Nat.not_lt.mpr early)
  · cases step
    exact absurd beyond (Nat.not_lt.mpr early)
  · rename_i idle
    obtain ⟨awaited, found, rfl⟩ := Option.map_eq_some_iff.mp step
    have awaits := (of_awaitedBy found).1
    cases awaited with
    | deadline => exact absurd beyond (Nat.lt_irrefl _)
    | arrival instant =>
      change _ < (station.receive instant).1.around.clock at beyond
      rw [clock_receive] at beyond
      have late : station.session.deadline < instant := by omega
      obtain ⟨notice, rest, expected⟩ := expected_of_awaited awaits
      have reached : station.isBeforeDeadline = false := by
        cases before : station.isBeforeDeadline with
        | false => rfl
        | true =>
          have ends : station.endsBefore instant = true := by
            unfold endsBefore
            split <;> simp [before, late, Nat.le_of_lt late]
          simp [awaited?, expected, ends] at awaits
      have due : ¬ station.around.clock < station.session.deadline := of_decide_eq_false reached
      exact ⟨by omega, going_of_idle idle⟩

/-- An epoch that ends late comes past its end, and is not over when it does. -/
theorem going_of_late (early : station.around.clock ≤ station.session.deadline)
    (late : station.session.deadline < station.runEpoch.1.around.clock) :
    ∃ (middle : Station) (effects : List Effect), RunsTo station effects middle ∧
      middle.session.deadline = station.session.deadline ∧
      middle.around.clock = middle.session.deadline ∧
      middle.session.isOver middle.around.clock = false ∧
      station.runEpoch = (middle.runEpoch.1, effects ++ middle.runEpoch.2) := by
  -- The step sought is the one that takes the clock beyond the end; all steps before keep that end.
  fun_induction runEpoch station with
  | case1 station running next step others ih =>
    have same := deadline_step step
    by_cases beyond : station.session.deadline < next.1.around.clock
    · obtain ⟨reached, going⟩ := going_of_step_beyond step early beyond
      refine ⟨station, [], .refl station, rfl, reached, going, ?_⟩
      rw [runEpoch_of_step running step]
      rfl
    · obtain ⟨middle, effects, run, deadline, reached, going, rest⟩ :=
        ih (same ▸ Nat.le_of_not_lt beyond) (same ▸ late)
      refine ⟨middle, next.2 ++ effects, (runsTo_step running step).trans run,
        deadline.trans same, reached, going, ?_⟩
      rw [List.append_assoc]
      exact congrArg (fun others => (others.1, next.2 ++ others.2)) rest
  | case2 station running stuck => exact absurd late (Nat.not_lt.mpr early)
  | case3 station stage => exact absurd late (Nat.not_lt.mpr early)
  | case4 station stage => exact absurd late (Nat.not_lt.mpr early)
  | case5 station reason stage => exact absurd late (Nat.not_lt.mpr early)

end Station

end ButtonGateway
