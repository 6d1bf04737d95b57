import ButtonGateway.Proofs.Connection.Handing
import ButtonGateway.Proofs.Gesture.Observation
import ButtonGateway.Proofs.Session.Performed
/-!
Delivery: a session handles the notices that its inbox accepted in their order, each once and none
behind a fatal one, and what it answers is the fold of a tracker over them. Where the epochs end,
when the notices arrive and what becomes of the broker has no influence on that.
-/
namespace ButtonGateway

namespace GestureTracker

theorem answers_observe (tracker : GestureTracker) (notice : Notice) :
    (tracker.observe notice).2.filter Effect.isAnswer = (tracker.observe notice).2 := by
  unfold observe
  split
  · split
    · simp [Effect.isAnswer]
    · rfl
  · split <;> rfl
  all_goals rfl

end GestureTracker

namespace Session

theorem consume_of_fatal {notice : Notice} (fatal : notice.isFatal = true) (session : Session) :
    (session.consume notice).2 = [] ∧
      (session.consume notice).1.tracker = session.tracker ∧
      (session.consume notice).1.stage = .fatal notice.text := by
  unfold consume
  rw [if_pos fatal]
  exact ⟨rfl, rfl, rfl⟩

theorem consume_of_alive {notice : Notice} (alive : notice.isFatal = false) (session : Session) :
    session.consume notice =
      ({ session with
          packets := session.packets + 1
          tracker := (session.tracker.observe notice).1 },
        (session.tracker.observe notice).2) := by
  unfold consume
  rw [if_neg (Bool.eq_false_iff.mp alive), dispatch_eq_observe]

private theorem answers_repair (around : Surroundings) :
    (repair around).2.filter Effect.isAnswer = [] := by
  rw [effects_repair]
  split <;> rfl

theorem answers_commands (commands : List Daemon.Command) :
    (commands.map Effect.command).filter Effect.isAnswer = [] := by
  simp [List.filter_eq_nil_iff, Effect.isAnswer]

end Session

namespace Station

/-- What a log and a station have in common on every course of a fresh station. -/
structure Delivered (log : Log) (station : Station) : Prop where
  queued : log.handled ++ station.inbox.waiting = log.accepted
  /-- The tracker and the answers are those of the fold. -/
  answered : GestureTracker.start.observeAll log.heard = (station.session.tracker, log.answers)
  last : ∀ front notice back, log.handled = front ++ notice :: back → notice.isFatal = true →
    back = []
  dead : ∀ notice ∈ log.handled, notice.isFatal = true →
    ∃ reason, station.session.stage = .fatal reason

private theorem delivered_create (addresses : PerSlot (Option Address)) (epochLength : Nat)
    (publisher : Publisher) : Delivered [] (create addresses epochLength publisher) where
  queued := rfl
  answered := rfl
  last := by
    intro front notice back same
    simp [Log.handled] at same
  dead := by
    intro notice member
    simp [Log.handled] at member

private theorem living_of_running {station : Station}
    (running : station.session.stage = .dispatching)
    (reason : String) : station.session.stage ≠ .fatal reason := by
  simp [running]

namespace Delivered

variable {log : Log} {station next : Station}

/-- As long as the session is not dead, nothing fatal was handled. -/
theorem alive (delivered : Delivered log station)
    (living : ∀ reason, station.session.stage ≠ .fatal reason) (notice : Notice)
    (member : notice ∈ log.handled) : notice.isFatal = false := by
  cases fatal : notice.isFatal with
  | false => rfl
  | true =>
    obtain ⟨reason, dead⟩ := delivered.dead notice member fatal
    exact absurd dead (living reason)

theorem meanwhile (delivered : Delivered log station) {arrivals : List Notice}
    (change : Meanwhile station arrivals next) : Delivered (log ++ .ofArrivals arrivals) next where
  queued := by simp [change.waiting, ← delivered.queued]
  answered := by simpa [change.session] using delivered.answered
  last := by simpa using delivered.last
  dead := by simpa [change.session] using delivered.dead

/-- The session changes its stage and does what answers no notice. -/
theorem turnedTo (delivered : Delivered log station) {effects : List Effect}
    (living : ∀ reason, station.session.stage ≠ .fatal reason)
    (unanswered : effects.filter Effect.isAnswer = [])
    (waiting : next.inbox.waiting = station.inbox.waiting)
    (tracker : next.session.tracker = station.session.tracker) :
    Delivered (log ++ effects.map .done) next where
  queued := by simpa [waiting] using delivered.queued
  answered := by simpa [unanswered, tracker] using delivered.answered
  last := by simpa using delivered.last
  dead := by
    intro notice member fatal
    have spared := delivered.alive living notice (by simpa using member)
    cases spared.symm.trans fatal

theorem ended (delivered : Delivered log station)
    (running : station.session.stage = .dispatching) (stage : Stage) :
    Delivered log (station.finish stage) := by
  have turned : Delivered (log ++ [].map .done) (station.finish stage) :=
    delivered.turnedTo (living_of_running running) rfl rfl rfl
  simpa using turned

theorem handle (delivered : Delivered log station)
    (running : station.session.stage = .dispatching) {notice : Notice} {rest : List Notice}
    (first : station.inbox.waiting = notice :: rest) :
    Delivered (log ++ .ofAnswer notice (station.handle notice rest).2)
      (station.handle notice rest).1 := by
  have spared := delivered.alive (living_of_running running)
  -- Nothing fatal was handled before, so the notice alone can be fatal, and it is the last one.
  have queued : (log ++ .ofAnswer notice (station.handle notice rest).2).handled ++ rest =
      (log ++ .ofAnswer notice (station.handle notice rest).2).accepted := by
    simp [← delivered.queued, first]
  have last : ∀ front (other : Notice) back, log.handled ++ [notice] = front ++ other :: back →
      other.isFatal = true → back = [] := by
    intro front other back same fatal
    rcases List.eq_nil_or_concat back with none | ⟨middle, final, rfl⟩
    · exact none
    · have shorter : log.handled ++ [notice] = (front ++ other :: middle) ++ [final] := by
        simpa using same
      have within : other ∈ log.handled := by
        rw [(List.append_inj' shorter rfl).1]
        simp
      cases (spared other within).symm.trans fatal
  unfold Station.handle at queued ⊢
  cases fatal : notice.isFatal with
  | true =>
    obtain ⟨silent, tracker, stage⟩ := Session.consume_of_fatal fatal station.session
    refine ⟨queued, ?_, by simpa using last, fun _ _ _ => ⟨_, stage⟩⟩
    simpa [silent, tracker, fatal] using delivered.answered
  | false =>
    have spoken := Session.consume_of_alive fatal station.session
    refine ⟨queued, ?_, by simpa using last, ?_⟩
    · simp only [Log.heard_append, Log.heard_ofAnswer, fatal, Bool.false_eq_true, if_false,
        GestureTracker.observeAll_concat, delivered.answered, Log.answers_append,
        Log.answers_ofAnswer, spoken, GestureTracker.answers_observe]
    · intro other member otherFatal
      simp only [Log.handled_append, Log.handled_ofAnswer, List.mem_append,
        List.mem_singleton] at member
      rcases member with earlier | rfl
      · cases (spared other earlier).symm.trans otherFatal
      · cases fatal.symm.trans otherFatal

theorem move (delivered : Delivered log station) {lines : Log} (move : Move station lines next) :
    Delivered (log ++ lines) next := by
  cases move with
  | meanwhile change => exact delivered.meanwhile change
  | start fresh begun =>
    obtain ⟨rfl, rfl⟩ := start_ok begun
    refine delivered.turnedTo (by simp [fresh]) ?_ rfl rfl
    simp [Effect.isAnswer, Session.answers_commands, Session.answers_repair]
  | refuse fresh refused =>
    rw [start_error refused]
    exact delivered.turnedTo (by simp [fresh]) rfl rfl rfl
  | refresh expired begun =>
    obtain ⟨rfl, rfl⟩ := refresh_ok begun
    refine delivered.turnedTo (by simp [expired]) ?_ rfl rfl
    simp [Effect.isAnswer, Session.answers_repair]
  | finish running ended =>
    rw [List.append_nil]
    exact delivered.ended running _
  | handle running first => exact delivered.handle running (waiting_of_turn first)
  | receive running idle change first =>
    rw [← List.append_assoc]
    exact (delivered.meanwhile change).handle (change.session ▸ running) first
  | close running idle change closed =>
    exact (delivered.meanwhile change).ended (change.session ▸ running) _

end Delivered

theorem delivered_of_course {addresses : PerSlot (Option Address)} {epochLength : Nat}
    {publisher : Publisher} {log : Log} {station : Station}
    (course : Course (create addresses epochLength publisher) log station) :
    Delivered log station := by
  induction course with
  | stay => exact delivered_create addresses epochLength publisher
  | move _ move ih => exact ih.move move

theorem answers_of_course {addresses : PerSlot (Option Address)} {epochLength : Nat}
    {publisher : Publisher} {log : Log} {station : Station}
    (course : Course (create addresses epochLength publisher) log station) :
    log.answers = (GestureTracker.start.observeAll log.heard).2 := by
  rw [(delivered_of_course course).answered]

/-- How notices come from those who send them to a fresh session, and what it makes of them. -/
structure Delivers (buttons : SlotTable) (epochLength : Nat) (publisher : Publisher) : Prop where
  /-- In a rehearsal the inbox accepts what offers that were taken and sendings for later brought,
  in the order of arrival, and expects only what is not due yet. -/
  rehearsed : ∀ cues,
    let fresh : Rehearsal := ⟨create buttons.addresses epochLength publisher, .present⟩
    ∃ arrived,
      Reaches fresh.station (arrived.map (·.2)) (fresh.performAll cues).2
        (fresh.performAll cues).1.station ∧
      Rehearsal.Accounts (fresh.sendings cues) arrived (fresh.performAll cues).1.station
  /-- On a connection the inbox accepts what the reception hands over until the connection has
  ended. -/
  connected : ∀ filter happenings,
    let opened := Gateway.start filter buttons epochLength publisher
    let incidents := Happening.incidents (opened.1.noted happenings)
    Reaches (create buttons.addresses epochLength publisher)
      ((Reception.start filter 0 Reception.standardTimeout (by decide)).follow 0 incidents).2
      (opened.2 ++ (opened.1.run happenings).2) (opened.1.run happenings).1.station
  /-- An epoch that is run handles what is in store or leaves it there. -/
  epochs : ∀ station : Station, RunsTo station station.runEpoch.2 station.runEpoch.1
  /-- What is accepted is handled in order, none twice, none behind a fatal one, and the answers are
  the fold of the tracker. -/
  handled : ∀ log station, Course (create buttons.addresses epochLength publisher) log station →
    Delivered log station
  /-- Who handles more begins with the answers of the other. -/
  alike : ∀ log station, Course (create buttons.addresses epochLength publisher) log station →
    ∀ otherButtons otherLength otherPublisher otherLog otherStation,
      Course (create (SlotTable.addresses otherButtons) otherLength otherPublisher) otherLog
        otherStation →
      log.heard <+: otherLog.heard → log.answers <+: otherLog.answers

/-- What rehearsals and connections do, and what an epoch does, are courses, on which the inbox
accepts what was sent or handed over. On every course of a fresh session the notices are handled in
the order in which they were accepted, none twice, none behind a fatal one and none left out before
another, and the answers are the fold of the tracker over them; so of two courses, whatever their
tables, epochs, clocks and links to the broker, the one that handles more begins with the answers of
the other. -/
theorem delivery_is_fold (buttons : SlotTable) (epochLength : Nat) (publisher : Publisher) :
    Delivers buttons epochLength publisher where
  rehearsed := by
    intro cues fresh
    have accounts : Rehearsal.Accounts [] [] fresh.station := ⟨rfl, nofun, nofun⟩
    exact accounts.performAll cues
  connected := by
    intro filter happenings
    have opened := Gateway.reaches_start filter buttons epochLength publisher
    have ran := Gateway.reaches_run
      (Gateway.expected_start filter buttons epochLength publisher) happenings
    have whole := opened.trans ran
    rw [List.nil_append, Gateway.handedOver] at whole
    have begins : (Gateway.start filter buttons epochLength publisher).1.clock = 0 ∧
        (Gateway.start filter buttons epochLength publisher).1.reception =
          .start filter 0 Reception.standardTimeout (by decide) := by
      rw [Gateway.start_eq]
      exact ⟨rfl, rfl⟩
    rw [begins.1, begins.2] at whole
    exact whole
  epochs := runsTo_runEpoch
  handled := fun _ _ => delivered_of_course
  alike := by
    intro log station course otherButtons otherLength otherPublisher otherLog otherStation
      otherCourse
    rintro ⟨back, longer⟩
    rw [answers_of_course course, answers_of_course otherCourse, ← longer,
      GestureTracker.observeAll_append]
    exact List.prefix_append _ _

end Station

end ButtonGateway
