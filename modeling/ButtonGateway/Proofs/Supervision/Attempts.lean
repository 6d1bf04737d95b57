import ButtonGateway.Proofs.Supervision.Run

namespace ButtonGateway

private theorem Backoff.toNat_next (attempt : UInt32) :
    (Backoff.next attempt).toNat = min (attempt.toNat + 1) (2 ^ 32 - 1) := by
  have bound := attempt.toNat_lt
  unfold Backoff.next
  split
  · rename_i greatest
    subst greatest
    rfl
  · rename_i smaller
    have below : attempt.toNat ≠ 4294967295 := by
      intro same
      exact smaller (UInt32.toNat_inj.mp same)
    rw [UInt32.toNat_add, UInt32.toNat_one]
    omega

namespace Supervision

/-- Whether an attempt led to a connection that ended a minute after the attempt began, or later. -/
def Ending.isHealthy : Ending → Bool
  | .again (some seconds) _ _ => decide (60 ≤ seconds)
  | .again none _ _ | .running _ | .failed _ => false

/-- A number counts attempts from the last healthy one on, or all of them if none was healthy; it
stays at the greatest number. -/
structure Counts (endings : List Ending) (attempt : UInt32) : Prop where
  never : (∀ ending ∈ endings, ending.isHealthy = false) →
    attempt.toNat = min endings.length (2 ^ 32 - 1)
  since : ∀ earlier healthy later, endings = earlier ++ healthy :: later →
    healthy.isHealthy = true → (∀ ending ∈ later, ending.isHealthy = false) →
    attempt.toNat = min (later.length + 1) (2 ^ 32 - 1)

private theorem counts_nil : Counts [] 0 := by
  refine ⟨fun _ => rfl, ?_⟩
  intro earlier healthy later none
  simp at none

/-- Where one more ending is split, it is the middle one or the last. -/
private theorem split_concat {endings earlier later : List Ending} {ending middle : Ending}
    (split : endings ++ [ending] = earlier ++ middle :: later) :
    later = [] ∧ middle = ending ∨
      ∃ front, later = front ++ [ending] ∧ endings = earlier ++ middle :: front := by
  rcases List.eq_nil_or_concat' later with rfl | ⟨front, last, rfl⟩
  · have same := (List.append_inj' split rfl).2
    exact .inl ⟨rfl, (List.cons.inj same).1.symm⟩
  · have whole : endings ++ [ending] = (earlier ++ middle :: front) ++ [last] := by
      simpa using split
    obtain ⟨before, same⟩ := List.append_inj' whole rfl
    cases (List.cons.inj same).1
    exact .inr ⟨front, rfl, before⟩

/-- A healthy attempt is the first that is counted. -/
theorem counts_concat_healthy {ending : Ending} (healthy : ending.isHealthy = true)
    (endings : List Ending) : Counts (endings ++ [ending]) 1 := by
  constructor
  · intro never
    cases (never ending (by simp)).symm.trans healthy
  · intro earlier last later split _ poor
    rcases split_concat split with ⟨rfl, _⟩ | ⟨front, rfl, _⟩
    · rfl
    · cases (poor ending (by simp)).symm.trans healthy

/-- Any other attempt is counted along with those before it. -/
theorem Counts.concat {endings : List Ending} {attempt : UInt32} (counts : Counts endings attempt)
    {ending : Ending} (poor : ending.isHealthy = false) :
    Counts (endings ++ [ending]) (Backoff.next attempt) := by
  constructor
  · intro never
    have before := counts.never fun other member => never other (by simp [member])
    rw [Backoff.toNat_next, before, List.length_append, List.length_singleton]
    omega
  · intro earlier healthy later split well rest
    rcases split_concat split with ⟨_, rfl⟩ | ⟨front, rfl, same⟩
    · cases poor.symm.trans well
    · have before := counts.since earlier healthy front same well
        fun other member => rest other (by simp [member])
      rw [Backoff.toNat_next, before, List.length_append, List.length_singleton]
      omega

private theorem counts_again {endings : List Ending} {attempt : UInt32}
    (counts : Counts endings attempt)
    (lasted : Option Nat) (next : Supervision) (pause : UInt64) :
    Counts (endings ++ [.again lasted next pause]) (count attempt lasted) := by
  cases lasted with
  | none => exact counts.concat rfl
  | some seconds =>
    unfold count
    dsimp only
    by_cases long : healthyRun ≤ seconds
    · have healthy : (Ending.again (some seconds) next pause).isHealthy = true :=
        decide_eq_true long
      rw [if_pos long]
      exact counts_concat_healthy healthy endings
    · have poor : (Ending.again (some seconds) next pause).isHealthy = false :=
        decide_eq_false long
      rw [if_neg long]
      exact counts.concat poor

variable {plan : Plan} {supervision next : Supervision} {visit : Visit} {lasted : Option Nat}
  {pause : UInt64}

/-- A command that could not be written on a visit, and why: either the daemon takes only so many
and this is the next one, or the session is about to begin an epoch and the daemon is deaf. -/
def Unwritten (plan : Plan) (supervision : Supervision) (visit : Visit)
    (failure : CommandFailure) : Prop :=
  supervision.untaken? plan visit = some failure ∨
    supervision.untaken? plan visit = none ∧
      (supervision.attended plan visit).1.station.Unheard failure

private theorem standing_failed_iff {opening : Nat} {gateway : Gateway} (settled : gateway.Settled)
    (failure : CommandFailure) :
    supervision.standing opening gateway = .failed failure ↔ gateway.station.Unheard failure := by
  rw [← Gateway.state_failed_iff settled, standing]
  split
  · rename_i same
    simp [same]
  · rename_i same
    simp [same]
  · rename_i same
    simp [same, again]

/-- A visit fails exactly with a command that could not be written. -/
theorem visited_failed_iff (failure : CommandFailure) :
    (supervision.visited plan visit).1 = .failed failure ↔
      supervision.Unwritten plan visit failure := by
  rw [fst_visited, Unwritten]
  cases supervision.untaken? plan visit with
  | none => simp [standing_failed_iff settled_attended]
  | some other => simp

/-- A visit that does not fail is over when the session is dead. -/
theorem visited_of_fatal {reason : String}
    (written : ∀ failure, ¬ supervision.Unwritten plan visit failure)
    (dead : (supervision.attended plan visit).1.station.session.stage = .fatal reason) :
    (supervision.visited plan visit).1 =
      supervision.again (supervision.attended plan visit).1.station.around.publisher
        (some (visit.opening + (supervision.attended plan visit).1.station.around.clock)) := by
  rw [fst_visited]
  cases untaken : supervision.untaken? plan visit with
  | none => exact standing_of_fatal settled_attended dead
  | some failure => exact absurd (.inl untaken) (written failure)

/-- What is remembered after an attempt is counted, and the pause is that of its number. -/
theorem of_serve_again {attempt : Attempt}
    (gone : (supervision.serve plan attempt).1 = .again lasted next pause) :
    next.attempt = count supervision.attempt lasted ∧ pause = Backoff.delay next.attempt := by
  cases attempt with
  | refused =>
    cases gone
    exact ⟨rfl, rfl⟩
  | served visit =>
    cases of_visited_again gone
    exact ⟨rfl, rfl⟩

/-- The number of an attempt of a run counts the outcomes of the attempts before it. -/
theorem counts_of_run {publisher : Publisher} {attempts : List Attempt} {i : Nat}
    {effects : List Effect}
    (gone : (run plan ⟨0, publisher⟩ attempts)[i]? = some (.again lasted next pause, effects)) :
    Counts (((run plan ⟨0, publisher⟩ attempts).take (i + 1)).map Prod.fst) next.attempt ∧
      pause = Backoff.delay next.attempt := by
  have step (past : List (Ending × List Effect)) (current : Supervision) (attempt : Attempt)
      (lasted : Option Nat) (next : Supervision) (pause : UInt64)
      (counts : Counts (past.map Prod.fst) current.attempt)
      (gone : (current.serve plan attempt).1 = .again lasted next pause) :
      Counts ((past ++ [current.serve plan attempt]).map Prod.fst) next.attempt := by
    rw [List.map_append, List.map_singleton, gone, (of_serve_again gone).1]
    exact counts_again counts lasted next pause
  obtain ⟨current, attempt, counts, _, served⟩ := served_of_run step [] gone counts_nil
  have ended := congrArg Prod.fst served
  obtain ⟨number, paused⟩ := of_serve_again ended.symm
  refine ⟨?_, paused⟩
  rw [List.take_add_one, gone, List.map_append, number]
  exact counts_again counts lasted next pause

/-- What follows the attempt at a given place of a run that leaves the daemon gone. -/
structure Retries (plan : Plan) (publisher : Publisher) (attempts : List Attempt) (i : Nat)
    (next : Supervision) (pause : UInt64) : Prop where
  number : Counts (((run plan ⟨0, publisher⟩ attempts).take (i + 1)).map Prod.fst) next.attempt
  pause : pause = Backoff.delay next.attempt
  attempt : (run plan ⟨0, publisher⟩ attempts)[i + 1]? = attempts[i + 1]?.map (next.serve plan)

structure Judges (supervision : Supervision) (plan : Plan) (visit : Visit) : Prop where
  failed : ∀ failure, (supervision.serve plan (.served visit)).1 = .failed failure ↔
    supervision.Unwritten plan visit failure
  /-- The attempt has lasted from its beginning until the session died. -/
  lasted : ∀ lasted next pause,
    (supervision.serve plan (.served visit)).1 = .again lasted next pause →
    lasted = some (visit.opening + (supervision.attended plan visit).1.station.around.clock)
  publisher : ∀ lasted next pause,
    (supervision.serve plan (.served visit)).1 = .again lasted next pause →
    next.publisher = (supervision.attended plan visit).1.station.around.publisher
  gone : ∀ reason, (∀ failure, ¬ supervision.Unwritten plan visit failure) →
    (supervision.attended plan visit).1.station.session.stage = .fatal reason →
    ∃ lasted next pause, (supervision.serve plan (.served visit)).1 = .again lasted next pause

private theorem judges (supervision : Supervision) (plan : Plan) (visit : Visit) :
    supervision.Judges plan visit where
  failed := visited_failed_iff
  lasted := by
    intro lasted next pause gone
    cases of_visited_again gone
    rfl
  publisher := by
    intro lasted next pause gone
    cases of_visited_again gone
    rfl
  gone := by
    intro reason written dead
    exact ⟨_, _, _, visited_of_fatal written dead⟩

/-- How supervision takes some attempts. -/
structure CountsAttempts (plan : Plan) (publisher : Publisher) (attempts : List Attempt) :
    Prop where
  first : (run plan ⟨0, publisher⟩ attempts)[0]? = attempts[0]?.map (serve plan ⟨0, publisher⟩)
  again : ∀ i lasted next pause effects,
    (run plan ⟨0, publisher⟩ attempts)[i]? = some (.again lasted next pause, effects) →
    Retries plan publisher attempts i next pause
  stops : ∀ i failure effects,
    (run plan ⟨0, publisher⟩ attempts)[i]? = some (.failed failure, effects) →
    (run plan ⟨0, publisher⟩ attempts).length = i + 1
  refused : ∀ supervision : Supervision, ∃ number,
    supervision.serve plan .refused =
      (.again none ⟨number, supervision.publisher⟩ (Backoff.delay number), [])
  served : ∀ (supervision : Supervision) visit, supervision.Judges plan visit

/-- Supervision counts attempts since the last healthy one and goes on until a command cannot be
written. In every run the number of an attempt that leaves the daemon gone counts the attempts from
the last one on that led to a connection which ended a minute after the attempt began, or from the
first one on, up to the greatest number; the pause is that of the number, and the next attempt
begins with what was remembered. A refused attempt leaves the publisher as it was. A visit fails
exactly with a command that could not be written, and then the run is over; when the session of any
other visit is dead, the attempt has lasted from its beginning until then, and the publisher is left
as that session left it. -/
theorem attempts_count_from_healthy_one (plan : Plan) (publisher : Publisher)
    (attempts : List Attempt) : CountsAttempts plan publisher attempts where
  first := run_zero
  again := by
    intro i lasted next pause effects gone
    obtain ⟨counts, paused⟩ := counts_of_run gone
    exact ⟨counts, paused, run_succ gone⟩
  stops := by
    intro i failure effects failed
    exact length_run failed nofun
  refused _ := ⟨_, rfl⟩
  served supervision visit := supervision.judges plan visit

/-- After two refused attempts a connection lasts for a minute, counted from the beginning of its
attempt, and the next attempt is the second. -/
theorem healthy_attempt_is_counted_first :
    ∃ (plan : Plan) (attempts : List Attempt) (next : Supervision) (effects : List Effect),
      attempts.length = 4 ∧
        (run plan ⟨0, ⟨true, true, 0⟩⟩ attempts)[3]? = some (.again none next 200, effects) ∧
        Counts (((run plan ⟨0, ⟨true, true, 0⟩⟩ attempts).take 4).map Prod.fst) next.attempt ∧
        next = ⟨2, ⟨true, true, 0⟩⟩ := by
  let plan : Plan := ⟨.standard, SlotTable.empty, 3600⟩
  let attempts : List Attempt :=
    [.refused, .refused, .served ⟨60, true, none, [.hungUp]⟩, .refused]
  have refused : (serve plan ⟨0, ⟨true, true, 0⟩⟩ .refused).1 =
      .again none ⟨1, ⟨true, true, 0⟩⟩ 100 := by decide
  have refusedAgain : (serve plan ⟨1, ⟨true, true, 0⟩⟩ .refused).1 =
      .again none ⟨2, ⟨true, true, 0⟩⟩ 200 := by decide
  have served : (serve plan ⟨2, ⟨true, true, 0⟩⟩ (.served ⟨60, true, none, [.hungUp]⟩)).1 =
      .again (some 60) ⟨1, ⟨true, true, 0⟩⟩ 100 := by
    rw [serve, visited_hungUp (by decide)]
    decide
  have last : (run plan ⟨0, ⟨true, true, 0⟩⟩ attempts)[3]? =
      some (.again none ⟨2, ⟨true, true, 0⟩⟩ 200, []) := by
    rw [run_of_again refused, run_of_again refusedAgain, run_of_again served]
    decide
  have retries := (attempts_count_from_healthy_one plan ⟨true, true, 0⟩ attempts).again
    3 none _ 200 [] last
  exact ⟨plan, attempts, _, [], rfl, last, retries.number, rfl⟩

end Supervision

end ButtonGateway
