import ButtonGateway.Proofs.Session.Course
import Mathlib.Data.List.TakeWhile

namespace ButtonGateway.Station

/-- While the time of one station passes into that of the next, the first part of what was expected
arrives, each notice at its time at the earliest. -/
structure LetsIn (station : Station) (expected arrived : List (Nat × Notice)) (next : Station) :
    Prop where
  expected : expected = arrived ++ next.inbox.expected
  due : ∀ entry ∈ arrived, entry.1 ≤ next.around.clock
  clock : station.around.clock ≤ next.around.clock

theorem LetsIn.trans {first middle last : Station} {expected early late : List (Nat × Notice)}
    (before : LetsIn first expected early middle)
    (after : LetsIn middle middle.inbox.expected late last) :
    LetsIn first expected (early ++ late) last where
  expected := by rw [before.expected, after.expected, List.append_assoc]
  due := by
    intro entry member
    rcases List.mem_append.mp member with sooner | later
    · exact Nat.le_trans (before.due entry sooner) after.clock
    · exact after.due entry later
  clock := Nat.le_trans before.clock after.clock

theorem LetsIn.none {station next : Station} {expected : List (Nat × Notice)}
    (same : next.inbox.expected = expected)
    (clock : station.around.clock ≤ next.around.clock) : LetsIn station expected [] next :=
  ⟨same.symm, nofun, clock⟩

theorem letsIn_of_arrive {station next : Station} (clock : station.around.clock ≤ next.around.clock)
    {now : Nat} (reached : now ≤ next.around.clock)
    (arrive : next.inbox.expected = (station.inbox.arrive now).expected) :
    LetsIn station station.inbox.expected (station.inbox.expected.takeWhile (·.1 ≤ now)) next where
  expected := by rw [arrive, Inbox.arrive, List.takeWhile_append_dropWhile]
  due := by
    intro entry member
    have due : entry.1 ≤ now := by simpa using List.mem_takeWhile_imp member
    exact Nat.le_trans due reached
  clock := clock

private theorem letsIn_receive (station : Station) (instant : Nat) :
    ∃ arrived, LetsIn station station.inbox.expected arrived (station.receive instant).1 := by
  have clock := clock_receive station instant
  refine ⟨_, letsIn_of_arrive ?_ (Nat.le_of_eq clock.symm) ?_⟩
  · rw [clock]
    exact Nat.le_max_left _ _
  · unfold receive
    dsimp only
    split <;> rfl

private theorem letsIn_step {station : Station} {inTime : Nat → Bool}
    {next : Station × List Effect} (step : station.step? inTime = some next) :
    ∃ arrived, LetsIn station station.inbox.expected arrived next.1 := by
  unfold step? at step
  split at step
  · cases step
    exact ⟨[], .none rfl (Nat.le_refl _)⟩
  · cases step
    exact ⟨[], .none rfl (Nat.le_refl _)⟩
  · obtain ⟨awaited, found, rfl⟩ := Option.map_eq_some_iff.1 step
    cases awaited with
    | deadline =>
      have before := beforeDeadline_of_awaited (of_awaitedBy found).1
      exact ⟨[], .none rfl (Nat.le_of_lt before)⟩
    | arrival instant => exact letsIn_receive station instant

theorem letsIn_opened (station : Station) :
    LetsIn station station.inbox.expected [] station.opened :=
  .none rfl (Session.clock_le_repair station.around)

theorem letsIn_runEpoch (station : Station) :
    ∃ arrived, LetsIn station station.inbox.expected arrived station.runEpoch.1 := by
  fun_induction runEpoch station with
  | case1 station running next step others ih =>
    obtain ⟨early, before⟩ := letsIn_step step
    obtain ⟨late, after⟩ := ih
    exact ⟨early ++ late, before.trans after⟩
  | case2 | case3 | case4 | case5 => exact ⟨[], .none rfl (Nat.le_refl _)⟩

theorem letsIn_runUntil (limit : Nat) (station : Station) :
    ∃ arrived, LetsIn station station.inbox.expected arrived (station.runUntil limit).1 := by
  fun_induction runUntil limit station with
  | case1 | case2 | case3 => exact ⟨[], .none rfl (Nat.le_refl _)⟩
  | case4 station expired next effects begun before others ih =>
    obtain ⟨rfl, -⟩ := refresh_ok begun
    obtain ⟨late, after⟩ := ih
    exact ⟨late, station.letsIn_opened.trans ⟨after.expected, after.due, after.clock⟩⟩
  | case5 station expired next effects begun late =>
    rw [(refresh_ok begun).1]
    exact ⟨[], station.letsIn_opened⟩
  | case6 station running next step others ih =>
    obtain ⟨early, before⟩ := letsIn_step step
    obtain ⟨late, after⟩ := ih
    exact ⟨early ++ late, before.trans ⟨after.expected, after.due, after.clock⟩⟩
  | case7 station running stuck => exact ⟨[], .none rfl (Nat.le_max_left _ _)⟩

/-- What a station that is left to itself accepts is what has arrived. -/
theorem RunsTo.reaches {station next : Station} {effects : List Effect}
    {arrived : List (Nat × Notice)} (run : RunsTo station effects next)
    (letsIn : LetsIn station station.inbox.expected arrived next) :
    Reaches station (arrived.map (·.2)) effects next := by
  obtain ⟨notices, reaches, parts⟩ := run.exists_reaches
  rw [letsIn.expected, List.map_append] at parts
  rwa [← List.append_cancel_right parts]

end ButtonGateway.Station
