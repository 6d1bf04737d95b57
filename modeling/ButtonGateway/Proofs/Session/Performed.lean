import ButtonGateway.Proofs.Session.Arrivals
import ButtonGateway.Proofs.Session.Sendings
import ButtonGateway.Session.Rehearsal

namespace ButtonGateway.Rehearsal

open Station

/-- The notice that a cue sends, and when it arrives. -/
def sending? (rehearsal : Rehearsal) (cue : Cue) : Option (Nat × Notice) :=
  let clock := rehearsal.station.around.clock
  match cue with
  | .notice notice =>
    if (rehearsal.perform cue).2.delivery = some .sent then some (clock, notice) else none
  | .later seconds notice =>
    if rehearsal.station.inbox.last then none else some (clock + seconds, notice)
  | _ => none

private theorem clock_le_of_sending? {rehearsal : Rehearsal} {cue : Cue} {entry : Nat × Notice}
    (sends : rehearsal.sending? cue = some entry) : rehearsal.station.around.clock ≤ entry.1 := by
  cases cue with
  | notice notice =>
    obtain ⟨-, same⟩ := Option.ite_none_right_eq_some.mp sends
    cases same
    exact Nat.le_refl _
  | later seconds notice =>
    obtain ⟨-, same⟩ := Option.ite_none_left_eq_some.mp sends
    cases same
    exact Nat.le_add_right _ _
  | _ => cases sends

/-- What a rehearsal expects once a cue has sent what it sends. -/
def expecting (rehearsal : Rehearsal) (cue : Cue) : List (Nat × Notice) :=
  (rehearsal.sending? cue).toList.foldl Inbox.schedule rehearsal.station.inbox.expected

/-- One step of a rehearsal: the inbox accepts what arrives of all that is expected or sent. -/
def Takes (rehearsal : Rehearsal) (cue : Cue) (effects : List Effect) (next : Station) : Prop :=
  ∃ arrived, Reaches rehearsal.station (arrived.map (·.2)) effects next ∧
    LetsIn rehearsal.station (rehearsal.expecting cue) arrived next

theorem takes_of_runsTo {rehearsal : Rehearsal} {cue : Cue} {effects : List Effect}
    {next : Station} {arrived : List (Nat × Notice)}
    (quiet : rehearsal.sending? cue = none) (run : RunsTo rehearsal.station effects next)
    (letsIn : LetsIn rehearsal.station rehearsal.station.inbox.expected arrived next) :
    rehearsal.Takes cue effects next := by
  refine ⟨arrived, run.reaches letsIn, ?_⟩
  rw [expecting, quiet]
  exact letsIn

theorem takes_idle {rehearsal : Rehearsal} {cue : Cue} (quiet : rehearsal.sending? cue = none) :
    rehearsal.Takes cue [] rehearsal.station :=
  takes_of_runsTo quiet (.refl _) (.none rfl (Nat.le_refl _))

/-- The surroundings change, or the inbox closes. -/
theorem takes_change {rehearsal : Rehearsal} {cue : Cue} {next : Station}
    (quiet : rehearsal.sending? cue = none) (session : next.session = rehearsal.station.session)
    (waiting : next.inbox.waiting = rehearsal.station.inbox.waiting)
    (expected : next.inbox.expected = rehearsal.station.inbox.expected)
    (clock : rehearsal.station.around.clock ≤ next.around.clock) :
    rehearsal.Takes cue [] next := by
  have change : Meanwhile rehearsal.station [] next :=
    ⟨session, waiting.trans (List.append_nil _).symm, clock⟩
  have kept : next.inbox.store = rehearsal.station.inbox.store := by
    rw [Inbox.store, waiting, expected, ← Inbox.store]
  exact takes_of_runsTo quiet (change.runsTo kept) (.none expected clock)

private theorem stage_of_expects {rehearsal : Rehearsal} {cue : Cue}
    (expected : rehearsal.expects cue) :
    (cue = .start → rehearsal.station.session.stage = .starting) ∧
      (cue = .refresh → rehearsal.station.session.stage = .epochTimedOut) := by
  unfold expects at expected
  split at expected <;> simp_all

private theorem takes_start {rehearsal : Rehearsal}
    (fresh : rehearsal.station.session.stage = .starting) :
    rehearsal.Takes .start (rehearsal.entered rehearsal.station.start).2.effects
      (rehearsal.entered rehearsal.station.start).1.station := by
  rcases begun : rehearsal.station.start with ⟨failure | next, effects⟩
  · exact ⟨[], .ofDone (.refuse fresh begun), .none rfl (Nat.le_refl _)⟩
  · refine ⟨[], .ofDone (.start fresh begun), ?_⟩
    rw [show (rehearsal.entered (.ok next, effects)).1.station = next from rfl, (start_ok begun).1]
    exact rehearsal.station.letsIn_opened

private theorem takes_refresh {rehearsal : Rehearsal}
    (expired : rehearsal.station.session.stage = .epochTimedOut) :
    rehearsal.Takes .refresh (rehearsal.entered rehearsal.station.refresh).2.effects
      (rehearsal.entered rehearsal.station.refresh).1.station := by
  rcases begun : rehearsal.station.refresh with ⟨failure | next, effects⟩
  · rw [refresh_error begun]
    exact takes_idle rfl
  · refine ⟨[], .ofDone (.refresh expired begun), ?_⟩
    rw [show (rehearsal.entered (.ok next, effects)).1.station = next from rfl,
      (refresh_ok begun).1]
    exact rehearsal.station.letsIn_opened

/-- An offer is accepted if it is answered so, and otherwise nothing changes. -/
theorem offer_cases (rehearsal : Rehearsal) (notice : Notice) :
    (rehearsal.offer notice =
        (rehearsal.setInbox (rehearsal.station.inbox.put [notice]),
          { delivery := some .sent })) ∨
      ∃ delivery, delivery ≠ .sent ∧
        rehearsal.offer notice = (rehearsal, { delivery := some delivery }) := by
  unfold offer
  cases rehearsal.standing with
  | present =>
    dsimp only [Inbox.offer]
    split
    · exact .inr ⟨.closed, by decide, rfl⟩
    · split
      · exact .inl rfl
      · exact .inr ⟨.full, by decide, rfl⟩
  | blocked | failed => exact .inr ⟨.closed, by decide, rfl⟩

private theorem takes_offer (rehearsal : Rehearsal) (notice : Notice)
    (ahead : ∀ entry ∈ rehearsal.station.inbox.expected, rehearsal.station.around.clock < entry.1) :
    rehearsal.Takes (.notice notice) (rehearsal.offer notice).2.effects
      (rehearsal.offer notice).1.station := by
  rcases rehearsal.offer_cases notice with accepted | ⟨delivery, refused, unchanged⟩
  · have sends : rehearsal.sending? (.notice notice) =
        some (rehearsal.station.around.clock, notice) := by
      simp [sending?, perform, act, accepted]
    have first : rehearsal.expecting (.notice notice) =
        (rehearsal.station.around.clock, notice) :: rehearsal.station.inbox.expected := by
      rw [expecting, sends]
      cases expected : rehearsal.station.inbox.expected with
      | nil => rfl
      | cons entry rest =>
        have later := Nat.not_le.mpr (ahead entry (by simp [expected]))
        simp [Inbox.schedule, later]
    rw [accepted]
    refine ⟨[(rehearsal.station.around.clock, notice)],
      (Meanwhile.reaches ⟨rfl, rfl, Nat.le_refl _⟩), first, ?_, Nat.le_refl _⟩
    intro entry member
    rw [List.mem_singleton.mp member]
    exact Nat.le_refl _
  · rw [unchanged]
    refine takes_idle ?_
    simp [sending?, perform, act, unchanged, refused]

private theorem takes_later (rehearsal : Rehearsal) (seconds : Nat) (notice : Notice) :
    rehearsal.Takes (.later seconds notice) []
      (rehearsal.act (.later seconds notice)).1.station := by
  unfold act Inbox.expect
  dsimp only
  cases last : rehearsal.station.inbox.last with
  | true => exact takes_idle (by simp [sending?, last])
  | false =>
    have sends : rehearsal.sending? (.later seconds notice) =
        some (rehearsal.station.around.clock + seconds, notice) := by
      simp [sending?, last]
    refine ⟨[], Meanwhile.reaches ⟨rfl, (List.append_nil _).symm, Nat.le_refl _⟩, ?_⟩
    rw [expecting, sends]
    exact .none rfl (Nat.le_refl _)

private theorem takes_act (rehearsal : Rehearsal) (cue : Cue)
    (ahead : ∀ entry ∈ rehearsal.station.inbox.expected, rehearsal.station.around.clock < entry.1) :
    rehearsal.Takes cue (rehearsal.act cue).2.effects (rehearsal.act cue).1.station := by
  cases cue with
  | start =>
    unfold act
    dsimp only
    split
    · rename_i expected
      exact takes_start ((stage_of_expects expected).1 rfl)
    · exact takes_idle rfl
  | runEpoch =>
    unfold act
    dsimp only
    split
    · obtain ⟨arrived, letsIn⟩ := letsIn_runEpoch rehearsal.station
      exact takes_of_runsTo rfl (runsTo_runEpoch rehearsal.station) letsIn
    · exact takes_idle rfl
  | refresh =>
    unfold act
    dsimp only
    split
    · rename_i expected
      exact takes_refresh ((stage_of_expects expected).2 rfl)
    · exact takes_idle rfl
  | notice notice => exact rehearsal.takes_offer notice ahead
  | later seconds notice => exact rehearsal.takes_later seconds notice
  | advance seconds => exact takes_change rfl rfl rfl rfl (Nat.le_add_right _ _)
  | «seal» | breakDaemon | publisher => exact takes_change rfl rfl rfl rfl (Nat.le_refl _)

/-- Whatever is done in a rehearsal is a course, and what is due by then has arrived. -/
theorem takes_perform (rehearsal : Rehearsal) (cue : Cue)
    (ahead : ∀ entry ∈ rehearsal.station.inbox.expected, rehearsal.station.around.clock < entry.1) :
    rehearsal.Takes cue (rehearsal.perform cue).2.effects (rehearsal.perform cue).1.station := by
  obtain ⟨early, reaches, letsIn⟩ := rehearsal.takes_act cue ahead
  let acted := (rehearsal.act cue).1.station
  let late := acted.inbox.expected.takeWhile (·.1 ≤ acted.around.clock)
  have change : Meanwhile acted (late.map (·.2)) (rehearsal.perform cue).1.station :=
    ⟨rfl, rfl, Nat.le_refl _⟩
  have further : LetsIn acted acted.inbox.expected late (rehearsal.perform cue).1.station := by
    refine letsIn_of_arrive ?_ ?_ rfl
    · exact Nat.le_refl _
    · exact Nat.le_refl _
  have arrives := reaches.trans change.reaches
  rw [← List.map_append, List.append_nil] at arrives
  exact ⟨early ++ late, arrives, letsIn.trans further⟩

def performAll (rehearsal : Rehearsal) : List Cue → Rehearsal × List Effect
  | [] => (rehearsal, [])
  | cue :: rest =>
    let first := rehearsal.perform cue
    let others := first.1.performAll rest
    (others.1, first.2.effects ++ others.2)

/-- The notices that cues send, and when each arrives. -/
def sendings (rehearsal : Rehearsal) : List Cue → List (Nat × Notice)
  | [] => []
  | cue :: rest => (rehearsal.sending? cue).toList ++ (rehearsal.perform cue).1.sendings rest

/-- Of what was sent some has arrived by now, and the rest is expected, all of it in order. -/
structure Accounts (sent arrived : List (Nat × Notice)) (station : Station) : Prop where
  whole : arrived ++ station.inbox.expected = Inbox.inOrder sent
  past : ∀ entry ∈ arrived, entry.1 ≤ station.around.clock
  ahead : ∀ entry ∈ station.inbox.expected, station.around.clock < entry.1

private theorem schedule_append {arrived expected : List (Nat × Notice)} {entry : Nat × Notice}
    (past : ∀ other ∈ arrived, other.1 ≤ entry.1) :
    Inbox.schedule (arrived ++ expected) entry = arrived ++ Inbox.schedule expected entry := by
  have passed : ∀ other ∈ arrived, decide (other.1 ≤ entry.1) = true :=
    fun other member => decide_eq_true (past other member)
  rw [Inbox.schedule, List.takeWhile_append_of_pos passed, List.dropWhile_append_of_pos passed,
    List.append_assoc, ← Inbox.schedule]

theorem Accounts.expecting {rehearsal : Rehearsal} {sent arrived : List (Nat × Notice)}
    (accounts : Accounts sent arrived rehearsal.station) (cue : Cue) :
    arrived ++ rehearsal.expecting cue =
      Inbox.inOrder (sent ++ (rehearsal.sending? cue).toList) := by
  rw [Inbox.inOrder_append, ← accounts.whole, Rehearsal.expecting]
  cases sends : rehearsal.sending? cue with
  | none => rfl
  | some entry =>
    have past : ∀ other ∈ arrived, other.1 ≤ entry.1 := fun other member =>
      Nat.le_trans (accounts.past other member) (clock_le_of_sending? sends)
    exact (schedule_append past).symm

theorem Accounts.perform {rehearsal : Rehearsal} {sent arrived : List (Nat × Notice)}
    (accounts : Accounts sent arrived rehearsal.station) (cue : Cue) :
    ∃ more, Reaches rehearsal.station (more.map (·.2)) (rehearsal.perform cue).2.effects
        (rehearsal.perform cue).1.station ∧
      Accounts (sent ++ (rehearsal.sending? cue).toList) (arrived ++ more)
        (rehearsal.perform cue).1.station := by
  obtain ⟨more, reaches, letsIn⟩ := rehearsal.takes_perform cue accounts.ahead
  have whole := accounts.expecting cue
  rw [letsIn.expected, ← List.append_assoc] at whole
  refine ⟨more, reaches, whole, ?_, ?_⟩
  · intro entry member
    rcases List.mem_append.mp member with before | now
    · exact Nat.le_trans (accounts.past entry before) letsIn.clock
    · exact letsIn.due entry now
  · have ordered := Inbox.pairwise_inOrder (sent ++ (rehearsal.sending? cue).toList)
    rw [← whole, List.pairwise_append] at ordered
    exact Inbox.ahead_of_arrive ordered.2.1

/-- What has arrived and is still expected at the end of a rehearsal is what was sent. -/
theorem Accounts.performAll {rehearsal : Rehearsal} {sent arrived : List (Nat × Notice)}
    (accounts : Accounts sent arrived rehearsal.station) (cues : List Cue) :
    ∃ more, Reaches rehearsal.station (more.map (·.2)) (rehearsal.performAll cues).2
        (rehearsal.performAll cues).1.station ∧
      Accounts (sent ++ rehearsal.sendings cues) (arrived ++ more)
        (rehearsal.performAll cues).1.station := by
  induction cues generalizing rehearsal sent arrived with
  | nil =>
    refine ⟨[], .refl _, ?_⟩
    rw [sendings, List.append_nil, List.append_nil]
    exact accounts
  | cons cue rest ih =>
    obtain ⟨early, before, middle⟩ := accounts.perform cue
    obtain ⟨late, after, last⟩ := ih middle
    rw [List.append_assoc, List.append_assoc] at last
    refine ⟨early ++ late, ?_, last⟩
    rw [List.map_append]
    exact before.trans after

end ButtonGateway.Rehearsal
