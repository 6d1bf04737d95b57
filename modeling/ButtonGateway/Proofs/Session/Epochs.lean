import ButtonGateway.Proofs.Connection.Handing
import ButtonGateway.Proofs.Session.Holds

namespace ButtonGateway

/-- Of instants that are so far apart not many are within a span. -/
theorem length_le_of_apart {gap : Nat} (positive : 0 < gap) {instants : List Nat}
    (apart : instants.Pairwise fun first second => first + gap ≤ second) {start span : Nat}
    (within : ∀ instant ∈ instants, start ≤ instant ∧ instant ≤ start + span) :
    instants.length ≤ 1 + span / gap := by
  induction instants generalizing start span with
  | nil => exact Nat.zero_le _
  | cons instant rest ih =>
    obtain ⟨first, others⟩ := List.pairwise_cons.mp apart
    cases rest with
    | nil => simp
    | cons next later =>
      have here := (within instant (by simp)).1
      have there := (within next (by simp)).2
      have enough : gap ≤ span := by
        have step := first next (by simp)
        omega
      -- The others are within the span that is left behind the first gap.
      have left : ∀ other ∈ next :: later,
          start + gap ≤ other ∧ other ≤ start + gap + (span - gap) := by
        intro other member
        have after := first other member
        have before := (within other (List.mem_cons_of_mem _ member)).2
        omega
      have few := ih others left
      have divided := Nat.div_eq_sub_div positive enough
      rw [List.length_cons]
      omega

namespace Session

/-- The next session has the same epoch and is due at the same time; if it has not started, nothing
has changed. -/
structure Keeps (session next : Session) : Prop where
  epoch : next.epoch = session.epoch
  deadline : next.deadline = session.deadline
  epochLength : next.epochLength = session.epochLength
  fresh : next.stage = .starting → next = session
  begun : next.stage ≠ .starting → session.stage ≠ .starting
  running : next.stage = .dispatching → session.stage = .dispatching

theorem Keeps.refl (session : Session) : session.Keeps session :=
  ⟨rfl, rfl, rfl, fun _ => rfl, id, id⟩

private theorem keeps_finish {session : Session} (running : session.stage = .dispatching)
    {stage : Stage}
    (ended : stage ≠ .starting) : session.Keeps { session with stage } :=
  ⟨rfl, rfl, rfl, fun fresh => absurd fresh ended, fun _ => by simp [running], fun _ => running⟩

private theorem keeps_consume {session : Session} (running : session.stage = .dispatching)
    (notice : Notice) : session.Keeps (session.consume notice).1 := by
  have further : (session.consume notice).1.stage ≠ .starting := by
    rw [stage_consume, running]
    split <;> simp
  refine ⟨?_, Station.deadline_consume session notice, ?_, fun fresh => absurd fresh further,
    fun _ => by simp [running], fun _ => running⟩
  all_goals
    cases fatal : notice.isFatal with
    | true => simp [consume, fatal]
    | false => rw [consume_of_alive fatal]

/-- The commands that open channels do not ask for the state of the daemon. -/
theorem count_getInfo_connectCommands (session : Session) :
    (session.connectCommands.map Effect.command).count (.command .getInfo) = 0 := by
  simp [List.count_eq_zero, connectCommands, Daemon.Command.connectSlot]

end Session

namespace Station

/-- Lines of a log that belong to the beginning of an epoch. -/
def openings (lines : Log) : List Effect := lines.effects.filter Effect.isRefresh

private theorem openings_ofAnswer (station : Station) (notice : Notice) (rest : List Notice) :
    openings (.ofAnswer notice (station.handle notice rest).2) = [] := by
  rw [openings, Log.effects_ofAnswer, List.filter_eq_nil_iff]
  intro effect member
  have spared := Session.not_isRefresh_consume station.session notice effect member
  simp [spared]

private theorem openings_done (commands : List Daemon.Command) (around : Surroundings) :
    openings ((commands.map Effect.command ++ (Session.repair around).2).map .done) =
      commands.map .command ++ if around.publisher.up then [] else [.reconnect] := by
  rw [openings, Log.effects_done, Session.effects_repair, List.filter_eq_self]
  intro effect member
  rcases List.mem_append.mp member with written | repaired
  · obtain ⟨command, _, rfl⟩ := List.mem_map.mp written
    rfl
  · split at repaired
    · cases repaired
    · rw [List.mem_singleton.mp repaired]
      rfl

/-- What a move does to the epochs: it begins one, at the start or at a refresh, or it leaves them
alone. -/
theorem Move.begins_or_keeps {station next : Station} {lines : Log}
    (move : Move station lines next) :
    (∃ commands, openings lines = (Daemon.Command.getInfo :: commands).map .command ++
          (if station.around.publisher.up then [] else [.reconnect]) ∧ next = station.opened ∧
        (station.session.stage = .starting ∧ commands = station.session.connectCommands ∨
          station.session.stage = .epochTimedOut ∧ commands = [])) ∨
      openings lines = [] ∧ station.session.Keeps next.session ∧
        station.around.clock ≤ next.around.clock := by
  cases move with
  | meanwhile change =>
    refine .inr ⟨by simp [openings], ?_, change.clock⟩
    rw [change.session]
    exact .refl _
  | start fresh begun =>
    obtain ⟨rfl, rfl⟩ := start_ok begun
    refine .inl ⟨_, ?_, rfl, .inl ⟨fresh, rfl⟩⟩
    have written := openings_done (.getInfo :: station.session.connectCommands) station.around
    exact written
  | refuse fresh refused =>
    rw [start_error refused]
    exact .inr ⟨rfl, .refl _, Nat.le_refl _⟩
  | refresh expired begun =>
    obtain ⟨rfl, rfl⟩ := refresh_ok begun
    exact .inl ⟨[], openings_done [.getInfo] station.around, rfl, .inr ⟨expired, rfl⟩⟩
  | finish running ended =>
    refine .inr ⟨rfl, Session.keeps_finish running ?_, Nat.le_refl _⟩
    rcases of_turn_ended ended with ⟨rfl, _⟩ | rfl <;> simp
  | handle running first =>
    exact .inr ⟨openings_ofAnswer _ _ _, Session.keeps_consume running _, Nat.le_refl _⟩
  | @receive woken _ rest notice running idle change first =>
    have awake : woken.session.stage = .dispatching := change.session ▸ running
    refine .inr ⟨?_, ?_, change.clock⟩
    · rw [openings, Log.effects_append, Log.effects_ofArrivals, List.nil_append]
      exact openings_ofAnswer woken notice rest
    · rw [← change.session]
      exact Session.keeps_consume awake notice
  | @close woken running idle change closed =>
    have awake : woken.session.stage = .dispatching := change.session ▸ running
    refine .inr ⟨rfl, ?_, change.clock⟩
    rw [← change.session]
    exact Session.keeps_finish awake (by simp)

/-- The pace that a session was given, and what it has done of it. -/
structure Paced (addresses : PerSlot (Option Address)) (epochLength : Nat) (session : Session) :
    Prop where
  length : session.epochLength = epochLength
  fresh : session.stage = .starting → session = .create 0 addresses epochLength
  begun : session.stage ≠ .starting → 0 < session.epoch

theorem Paced.move {addresses : PerSlot (Option Address)} {epochLength : Nat}
    {station next : Station} {lines : Log} (paced : Paced addresses epochLength station.session)
    (move : Move station lines next) : Paced addresses epochLength next.session := by
  rcases move.begins_or_keeps with ⟨commands, _, rfl, _⟩ | ⟨_, kept, _⟩
  · exact ⟨paced.length, nofun, fun _ => Nat.succ_pos _⟩
  · refine ⟨kept.epochLength.trans paced.length, ?_, ?_⟩
    · intro fresh
      have same := kept.fresh fresh
      rw [same]
      exact paced.fresh (same ▸ fresh)
    · intro begun
      rw [kept.epoch]
      exact paced.begun (kept.begun begun)

/-- A move, with the station before it and the one after it. -/
structure Step where
  before : Station
  lines : Log
  after : Station

namespace Step

/-- Whether an epoch begins: the session was about to begin one, and then it is in one. -/
def begins (step : Step) : Bool :=
  (step.before.session.stage == .starting || step.before.session.stage == .epochTimedOut) &&
    step.after.session.stage == .dispatching

def log (steps : List Step) : Log := steps.flatMap lines

end Step

/-- Moves one after another from a first station. -/
inductive Way (first : Station) : List Step → Station → Prop where
  | stay : Way first [] first
  | move {steps : List Step} {station next : Station} {lines : Log}
      (before : Way first steps station) (move : Move station lines next) :
      Way first (steps ++ [⟨station, lines, next⟩]) next

theorem Way.course {first last : Station} {steps : List Step} (way : Way first steps last) :
    Course first (Step.log steps) last := by
  induction way with
  | stay => exact .stay
  | move _ move ih => simpa [Step.log] using Course.move ih move

/-- Every course is a way: whatever a rehearsal or a connection does is made of moves. -/
theorem Course.exists_way {first last : Station} {log : Log} (course : Course first log last) :
    ∃ steps, Way first steps last ∧ Step.log steps = log := by
  induction course with
  | stay => exact ⟨[], .stay, rfl⟩
  | move _ move ih =>
    obtain ⟨steps, way, rfl⟩ := ih
    exact ⟨_, .move way move, by simp [Step.log]⟩

private theorem Way.before_of_mem {first last : Station} {steps : List Step}
    (way : Way first steps last)
    {step : Step} (member : step ∈ steps) :
    (∃ front, Way first front step.before) ∧ Move step.before step.lines step.after := by
  induction way with
  | stay => cases member
  | move before move ih =>
    rcases List.mem_append.mp member with earlier | final
    · exact ih earlier
    · obtain rfl := List.mem_singleton.mp final
      exact ⟨⟨_, before⟩, move⟩

section Way

variable {addresses : PerSlot (Option Address)} {epochLength : Nat} {publisher : Publisher}
  {log lines : Log} {station next : Station} {steps : List Step}

private theorem paced_of_course
    (course : Course (create addresses epochLength publisher) log station) :
    Paced addresses epochLength station.session := by
  induction course with
  | stay => exact ⟨rfl, fun _ => rfl, fun begun => absurd rfl begun⟩
  | move _ move ih => exact ih.move move

/-- No epoch begins before the one before it is due to end. -/
theorem due_of_course (course : Course (create addresses epochLength publisher) log station)
    (about : station.session.stage = .starting ∨ station.session.stage = .epochTimedOut) :
    station.session.deadline ≤ station.around.clock := by
  rcases about with fresh | expired
  · rw [(paced_of_course course).fresh fresh]
    exact Nat.zero_le _
  · exact (over_of_course course expired).1

private theorem clock_opened (station : Station) :
    station.opened.around.clock = station.around.clock +
      if station.around.publisher.up then 0 else station.around.publisher.reconnectTime := by
  cases up : station.around.publisher.up <;> simp [opened, Session.repair, up]

/-- What the beginning of an epoch writes to the log, and when the epoch is due to end. -/
structure Begins (addresses : PerSlot (Option Address)) (epochLength : Nat) (step : Step) :
    Prop where
  begins : step.begins = true
  epoch : step.after.session.epoch = step.before.session.epoch + 1
  openings : openings step.lines = (Daemon.Command.getInfo ::
      if step.before.session.epoch = 0 then
        (Session.create 0 addresses epochLength).connectCommands else []).map .command ++
    if step.before.around.publisher.up then [] else [.reconnect]
  due : step.before.session.deadline ≤ step.before.around.clock
  clock : step.after.around.clock = step.before.around.clock +
    if step.before.around.publisher.up then 0 else step.before.around.publisher.reconnectTime
  deadline : step.after.session.deadline =
    step.after.around.clock + min epochLength (366 * 24 * 3600)

/-- A move that begins no epoch. -/
structure Stays (step : Step) : Prop where
  stays : step.begins = false
  openings : openings step.lines = []
  epoch : step.after.session.epoch = step.before.session.epoch
  deadline : step.after.session.deadline = step.before.session.deadline
  clock : step.before.around.clock ≤ step.after.around.clock

theorem begins_or_stays (course : Course (create addresses epochLength publisher) log station)
    (move : Move station lines next) :
    Begins addresses epochLength ⟨station, lines, next⟩ ∨ Stays ⟨station, lines, next⟩ := by
  have paced := paced_of_course course
  rcases move.begins_or_keeps with ⟨commands, written, rfl, about⟩ | ⟨silent, kept, later⟩
  · have due := due_of_course course (about.imp And.left And.left)
    refine .inl ⟨?_, rfl, ?_, due, clock_opened station, ?_⟩
    · rcases about with ⟨fresh, _⟩ | ⟨expired, _⟩
      · simp [Step.begins, opened, Session.enterEpoch, fresh]
      · simp [Step.begins, opened, Session.enterEpoch, expired]
    · rw [written]
      rcases about with ⟨fresh, rfl⟩ | ⟨expired, rfl⟩
      · rw [paced.fresh fresh]
        rfl
      · have further := paced.begun (by simp [expired])
        rw [if_neg (Nat.pos_iff_ne_zero.mp further)]
    · change _ + min station.session.epochLength _ = _
      rw [paced.length]
      rfl
  · refine .inr ⟨?_, silent, kept.epoch, kept.deadline, later⟩
    by_cases running : next.session.stage = .dispatching
    · simp [Step.begins, kept.running running]
    · simp [Step.begins, running]

theorem Way.begins_or_stays (way : Way (create addresses epochLength publisher) steps station)
    {step : Step} (member : step ∈ steps) : Begins addresses epochLength step ∨ Stays step := by
  obtain ⟨⟨front, before⟩, move⟩ := way.before_of_mem member
  exact Station.begins_or_stays before.course move

/-- As many epochs have begun as the session counts. -/
theorem Way.count_begins (way : Way (create addresses epochLength publisher) steps station) :
    (steps.filter Step.begins).length = station.session.epoch := by
  induction way with
  | stay => rfl
  | move before move ih =>
    rw [List.filter_append, List.length_append, ih]
    rcases Station.begins_or_stays before.course move with begun | stayed
    · rw [List.filter_cons_of_pos begun.begins]
      exact begun.epoch.symm
    · rw [List.filter_cons_of_neg (by simp [stayed.stays])]
      exact stayed.epoch.symm

/-- The next epoch is due to end later, by its length at least. -/
theorem Begins.deadline_le {step : Step} (begun : Begins addresses epochLength step) :
    step.before.session.deadline + min epochLength (366 * 24 * 3600) ≤
      step.after.session.deadline := by
  have due := begun.due
  have clock := begun.clock
  have deadline := begun.deadline
  omega

/-- The deadline never moves back. -/
theorem Way.deadline_le (way : Way (create addresses epochLength publisher) steps station)
    {step : Step} (member : step ∈ steps) :
    step.after.session.deadline ≤ station.session.deadline := by
  induction way with
  | stay => cases member
  | move before move ih =>
    rcases List.mem_append.mp member with earlier | last
    · have sooner := ih earlier
      rcases Station.begins_or_stays before.course move with begun | stayed
      · exact Nat.le_trans sooner (Nat.le_trans (Nat.le_add_right _ _) begun.deadline_le)
      · exact Nat.le_trans sooner (Nat.le_of_eq stayed.deadline.symm)
    · obtain rfl := List.mem_singleton.mp last
      exact Nat.le_refl _

/-- An epoch begins when all epochs before it were due to end, and is itself due to end later. -/
theorem Way.apart (way : Way (create addresses epochLength publisher) steps station) :
    (steps.filter Step.begins).Pairwise fun earlier later =>
      earlier.after.session.deadline + min epochLength (366 * 24 * 3600) ≤
          later.after.session.deadline ∧
        earlier.after.around.clock + min epochLength (366 * 24 * 3600) ≤
          later.before.around.clock := by
  induction way with
  | stay => exact .nil
  | @move _ station next lines before move ih =>
    rw [List.filter_append, List.pairwise_append]
    refine ⟨ih, ?_, ?_⟩
    · rw [List.filter_cons]
      split <;> simp
    · intro earlier among later last
      obtain ⟨earlierMember, earlierBegins⟩ := List.mem_filter.mp among
      obtain ⟨final, laterBegins⟩ := List.mem_filter.mp last
      obtain rfl := List.mem_singleton.mp final
      have sooner := before.deadline_le earlierMember
      rcases Station.begins_or_stays before.course move with begun | stayed
      · rcases before.begins_or_stays earlierMember with first | same
        · have due := begun.due
          have further := begun.deadline_le
          have deadline := first.deadline
          dsimp only at due further ⊢
          omega
        · cases same.stays.symm.trans earlierBegins
      · cases stayed.stays.symm.trans laterBegins

/-- The daemon is asked for its state once at the beginning of an epoch. -/
theorem Begins.count_getInfo {step : Step} (begun : Begins addresses epochLength step) :
    step.lines.effects.count (.command .getInfo) = 1 := by
  have others : ((if step.before.session.epoch = 0 then
      (Session.create 0 addresses epochLength).connectCommands else []).map
        Effect.command).count (.command .getInfo) = 0 := by
    split
    · exact Session.count_getInfo_connectCommands _
    · rfl
  have repairs : (if step.before.around.publisher.up then [] else [Effect.reconnect]).count
      (.command .getInfo) = 0 := by
    split <;> rfl
  have asking : Effect.isRefresh (.command .getInfo) = true := rfl
  rw [← List.count_filter asking]
  change (Station.openings step.lines).count _ = 1
  rw [begun.openings, List.count_append, List.map_cons, List.count_cons_self, others, repairs]

theorem Stays.count_getInfo {step : Step} (stayed : Stays step) :
    step.lines.effects.count (.command .getInfo) = 0 := by
  have asking : Effect.isRefresh (.command .getInfo) = true := rfl
  rw [← List.count_filter asking]
  change (Station.openings step.lines).count _ = 0
  rw [stayed.openings, List.count_nil]

/-- Of any of the moves of a way the daemon is asked at the beginnings of epochs. -/
theorem Way.count_getInfo (way : Way (create addresses epochLength publisher) steps station)
    {some : List Step} (among : ∀ step ∈ some, step ∈ steps) :
    (Step.log some).effects.count (.command .getInfo) = (some.filter Step.begins).length := by
  induction some with
  | nil => rfl
  | cons step rest ih =>
    have others := ih fun other member => among other (List.mem_cons_of_mem _ member)
    rw [Step.log, List.flatMap_cons, Log.effects_append, List.count_append]
    change _ + (Step.log rest).effects.count _ = _
    rw [others]
    rcases way.begins_or_stays (among step List.mem_cons_self) with begun | stayed
    · rw [begun.count_getInfo, List.filter_cons_of_pos begun.begins, List.length_cons, Nat.add_comm]
    · rw [stayed.count_getInfo, List.filter_cons_of_neg (by simp [stayed.stays]), Nat.zero_add]

/-- The moves that begin within a span of time. -/
def Step.within (start span : Nat) (steps : List Step) : List Step :=
  steps.filter fun step =>
    decide (start ≤ step.before.around.clock ∧ step.before.around.clock ≤ start + span)

/-- The daemon is not asked more often than the time allows. -/
theorem Way.count_getInfo_within (positive : 0 < epochLength)
    (way : Way (create addresses epochLength publisher) steps station) (start span : Nat) :
    (Step.log (Step.within start span steps)).effects.count (.command .getInfo) ≤
      1 + span / min epochLength (366 * 24 * 3600) := by
  have gap : 0 < min epochLength (366 * 24 * 3600) := Nat.lt_min.mpr ⟨positive, by decide⟩
  have among : ∀ step ∈ Step.within start span steps, step ∈ steps :=
    fun step member => (List.mem_filter.mp member).1
  have apart : ((Step.within start span steps).filter Step.begins).Pairwise fun earlier later =>
      earlier.before.around.clock + min epochLength (366 * 24 * 3600) ≤
        later.before.around.clock := by
    refine (way.apart.sublist (List.filter_sublist.filter _)).imp_of_mem ?_
    intro earlier later member _ apart
    obtain ⟨within, begins⟩ := List.mem_filter.mp member
    rcases way.begins_or_stays (among earlier within) with begun | stayed
    · have clock := begun.clock
      omega
    · cases stayed.stays.symm.trans begins
  have within : ∀ instant ∈ ((Step.within start span steps).filter Step.begins).map
      fun step => step.before.around.clock, start ≤ instant ∧ instant ≤ start + span := by
    intro instant member
    obtain ⟨step, begun, rfl⟩ := List.mem_map.mp member
    exact of_decide_eq_true (List.mem_filter.mp (List.mem_filter.mp begun).1).2
  have few := length_le_of_apart gap (List.pairwise_map.mpr apart) within
  rwa [List.length_map, ← way.count_getInfo among] at few

/-- Whatever a fresh session reaches, it has asked the daemon once for each of its epochs. -/
theorem count_getInfo_of_reaches {notices : List Notice} {effects : List Effect}
    (reached : Reaches (create addresses epochLength publisher) notices effects station) :
    effects.count (.command .getInfo) = station.session.epoch := by
  obtain ⟨log, course, -, rfl⟩ := reached
  obtain ⟨steps, way, rfl⟩ := course.exists_way
  rw [way.count_getInfo fun _ => id, way.count_begins]

/-- How the epochs of a session begin that has come so far. -/
structure BeginsApart (addresses : PerSlot (Option Address)) (epochLength : Nat)
    (steps : List Step) (station : Station) : Prop where
  counted : (steps.filter Step.begins).length = station.session.epoch
  asked : (Step.log steps).effects.count (.command .getInfo) = station.session.epoch
  /-- Between the beginnings nothing is written to the daemon, and the link is not repaired. -/
  silent : ∀ step ∈ steps, step.begins = false → openings step.lines = []
  opened : ∀ step ∈ steps, step.begins = true → Begins addresses epochLength step
  /-- An epoch begins after the one before it was due to end, and it is due to end later. -/
  apart : 0 < epochLength → (steps.filter Step.begins).Pairwise fun earlier later =>
    earlier.after.session.deadline < later.after.session.deadline ∧
      earlier.after.around.clock + min epochLength (366 * 24 * 3600) ≤ later.before.around.clock
  rare : 0 < epochLength → ∀ start span,
    (Step.log (Step.within start span steps)).effects.count (.command .getInfo) ≤
      1 + span / min epochLength (366 * 24 * 3600)

/-- Epochs begin once each and do not storm. On every way of a fresh session as many epochs begin as
the session counts, and so often the daemon is asked for its state: at the beginning of each epoch,
where channels are opened only for the first one, and where the link to the broker is repaired once
if it is down. Nothing else writes to the daemon or repairs the link. An epoch is due to end when
its length has passed after the repair, 366 days at most. If the length is positive, deadlines
increase, and epochs begin so far apart that in no span of time the daemon is asked more than once
and once again for each time that the length fits into the span. -/
theorem epochs_begin_once_and_apart
    (way : Way (create addresses epochLength publisher) steps station) :
    BeginsApart addresses epochLength steps station where
  counted := way.count_begins
  asked := by rw [way.count_getInfo fun _ => id, way.count_begins]
  silent := by
    intro step member stays
    rcases way.begins_or_stays member with begun | stayed
    · cases begun.begins.symm.trans stays
    · exact stayed.openings
  opened := by
    intro step member begins
    rcases way.begins_or_stays member with begun | stayed
    · exact begun
    · cases stayed.stays.symm.trans begins
  apart := by
    intro positive
    refine way.apart.imp ?_
    rintro earlier later ⟨deadlines, clocks⟩
    exact ⟨by omega, clocks⟩
  rare := way.count_getInfo_within

end Way

/-- Two epochs of ten seconds while the broker stays away: every repair of three seconds moves the
next epoch back. -/
theorem two_epochs_ask_twice :
    ∃ (steps : List Step) (station : Station),
      Way (create SlotTable.empty.addresses 10 ⟨false, false, 3⟩) steps station ∧
        (Step.log steps).effects =
          [.announce false, .command .getInfo, .reconnect, .command .getInfo, .reconnect] ∧
        station.session.epoch = 2 ∧ station.session.deadline = 26 ∧
        (Step.log steps).effects.count (.command .getInfo) = 2 ∧
        (Step.log (Step.within 0 12 steps)).effects.count (.command .getInfo) ≤ 2 := by
  let fresh := create SlotTable.empty.addresses 10 ⟨false, false, 3⟩
  let first := fresh.opened
  let due := first.setClock 13
  let expired := due.finish .epochTimedOut
  have started : Way fresh [_] first := .move .stay (.start rfl (start_of_listening rfl))
  have change : Meanwhile first [] due := ⟨rfl, (List.append_nil _).symm, by decide⟩
  have waited : Way fresh [_, _] due := .move started (.meanwhile change)
  have finished : Way fresh [_, _, _] expired := .move waited (.finish rfl (by decide))
  have again : Way fresh [_, _, _, _] expired.opened :=
    .move finished (.refresh rfl (refresh_of_listening rfl))
  have epochs := epochs_begin_once_and_apart again
  refine ⟨_, _, again, by decide +kernel, rfl, rfl, epochs.asked, ?_⟩
  exact epochs.rare (by decide) 0 12

end Station

namespace Gateway

/-- On every connection the daemon is asked once for each epoch, whatever happens. -/
theorem count_getInfo_run (filter : ClickFilter) (buttons : SlotTable) (epochLength : Nat)
    (publisher : Publisher) (happenings : List Happening) :
    ((start filter buttons epochLength publisher).2 ++
        ((start filter buttons epochLength publisher).1.run happenings).2).count
          (.command .getInfo) =
      ((start filter buttons epochLength publisher).1.run happenings).1.station.session.epoch :=
  Station.count_getInfo_of_reaches
    ((reaches_start filter buttons epochLength publisher).trans
      (reaches_run (expected_start filter buttons epochLength publisher) happenings))

end Gateway

end ButtonGateway
