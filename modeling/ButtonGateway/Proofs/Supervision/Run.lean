import ButtonGateway.Proofs.Connection.Hearing

namespace ButtonGateway

namespace Effect

theorem taken_prefix (count : Nat) (effects : List Effect) :
    (taken count effects).1 <+: effects := by
  induction effects generalizing count with
  | nil => exact List.nil_prefix
  | cons effect rest ih =>
    cases effect with
    | command request =>
      cases count with
      | zero => exact List.nil_prefix
      | succ count => exact (List.prefix_cons_inj _).mpr (ih count)
    | announce | publish | reconnect => exact (List.prefix_cons_inj _).mpr (ih count)

/-- The command that a daemon does not take which takes only so many is the one behind these. -/
theorem snd_taken (count : Nat) (effects : List Effect) :
    (taken count effects).2 = (commands effects)[count]? := by
  induction effects generalizing count with
  | nil => rfl
  | cons effect rest ih =>
    cases effect with
    | command request =>
      cases count with
      | zero => rfl
      | succ count => exact ih count
    | announce | publish | reconnect => exact ih count

end Effect

namespace Supervision

variable {plan : Plan} {first next : Supervision} {attempts : List Attempt}
  {outcome : Ending × List Effect} {lasted : Option Nat} {pause : UInt64}

theorem run_of_again {attempt : Attempt} (gone : (first.serve plan attempt).1 =
    .again lasted next pause) (rest : List Attempt) :
    first.run plan (attempt :: rest) = first.serve plan attempt :: next.run plan rest := by
  rw [run, gone]

theorem run_of_stopped {attempt : Attempt} (stopped : ∀ lasted next pause,
    (first.serve plan attempt).1 ≠ .again lasted next pause) (rest : List Attempt) :
    first.run plan (attempt :: rest) = [first.serve plan attempt] := by
  rw [run]
  split
  · rename_i lasted next pause gone
    exact absurd gone (stopped lasted next pause)
  · rfl
  · rfl

/-- How an attempt can end. -/
theorem again_or_stopped (ending : Ending) :
    (∃ lasted next pause, ending = .again lasted next pause) ∨
      ∀ lasted next pause, ending ≠ .again lasted next pause := by
  cases ending with
  | again lasted next pause => exact .inl ⟨lasted, next, pause, rfl⟩
  | running | failed => exact .inr nofun

/-- A run begins with the first attempt. -/
theorem run_zero : (first.run plan attempts)[0]? = attempts[0]?.map (first.serve plan) := by
  cases attempts with
  | nil => rfl
  | cons attempt rest =>
    rcases again_or_stopped (first.serve plan attempt).1 with ⟨_, _, _, gone⟩ | stopped
    · rw [run_of_again gone]
      rfl
    · rw [run_of_stopped stopped]
      rfl

/-- While the daemon is gone after an attempt, the run goes on with the next one. -/
theorem run_succ {i : Nat} {effects : List Effect}
    (gone : (first.run plan attempts)[i]? = some (.again lasted next pause, effects)) :
    (first.run plan attempts)[i + 1]? = attempts[i + 1]?.map (next.serve plan) := by
  induction attempts generalizing first i with
  | nil => cases gone
  | cons attempt rest ih =>
    rcases again_or_stopped (first.serve plan attempt).1 with ⟨_, _, _, ended⟩ | stopped
    · rw [run_of_again ended] at gone ⊢
      cases i with
      | zero =>
        have same := congrArg Prod.fst (Option.some.inj gone)
        cases ended.symm.trans same
        exact run_zero
      | succ i => exact ih gone
    · rw [run_of_stopped stopped] at gone
      cases i with
      | zero => exact absurd (congrArg Prod.fst (Option.some.inj gone)) (stopped lasted next pause)
      | succ i => cases gone

/-- A run ends with the first attempt after which the daemon is not gone. -/
theorem length_run {i : Nat} (served : (first.run plan attempts)[i]? = some outcome)
    (stopped : ∀ lasted next pause, outcome.1 ≠ .again lasted next pause) :
    (first.run plan attempts).length = i + 1 := by
  induction attempts generalizing first i with
  | nil => cases served
  | cons attempt rest ih =>
    rcases again_or_stopped (first.serve plan attempt).1 with ⟨lasted, next, pause, gone⟩ | ended
    · rw [run_of_again gone] at served ⊢
      cases i with
      | zero =>
        cases Option.some.inj served
        exact absurd gone (stopped lasted next pause)
      | succ i => rw [List.length_cons, ih served]
    · rw [run_of_stopped ended] at served ⊢
      cases i with
      | zero => rfl
      | succ i => cases served

/-- What each attempt keeps that leaves the daemon gone holds at each attempt of a run: it may speak
of what is remembered then and of the outcomes of the attempts before. -/
theorem served_of_run {kept : List (Ending × List Effect) → Supervision → Prop}
    (step : ∀ past current attempt lasted next pause, kept past current →
      (current.serve plan attempt).1 = .again lasted next pause →
      kept (past ++ [current.serve plan attempt]) next)
    (past : List (Ending × List Effect)) {i : Nat}
    (served : (first.run plan attempts)[i]? = some outcome) (holds : kept past first) :
    ∃ current attempt, kept (past ++ (first.run plan attempts).take i) current ∧
      attempts[i]? = some attempt ∧ outcome = current.serve plan attempt := by
  induction attempts generalizing first past i with
  | nil => cases served
  | cons attempt rest ih =>
    cases i with
    | zero =>
      rw [run_zero] at served
      exact ⟨first, attempt, by simpa using holds, rfl, (Option.some.inj served).symm⟩
    | succ i =>
      rcases again_or_stopped (first.serve plan attempt).1 with ⟨_, next, _, gone⟩ | stopped
      · rw [run_of_again gone] at served ⊢
        have further := ih _ served (step past first attempt _ next _ holds gone)
        rwa [List.append_assoc] at further
      · rw [run_of_stopped stopped] at served
        cases served

section Visit

variable {supervision : Supervision} {visit : Visit}

/-- The command that the daemon of a visit does not take because it takes only so many, and why. -/
def untaken? (plan : Plan) (supervision : Supervision) (visit : Visit) : Option CommandFailure :=
  visit.patience.bind fun (count, fault) =>
    (Effect.commands (supervision.attended plan visit).2)[count]?.map fun request =>
      ⟨request.opcode, fault⟩

theorem fst_visited :
    (supervision.visited plan visit).1 =
      match supervision.untaken? plan visit with
      | some failure => .failed failure
      | none => supervision.standing visit.opening (supervision.attended plan visit).1 := by
  unfold visited untaken?
  cases visit.patience with
  | none => rfl
  | some limit =>
    obtain ⟨count, fault⟩ := limit
    dsimp only [Option.bind_some]
    rw [← Effect.snd_taken]
    rcases Effect.taken count (supervision.attended plan visit).2 with ⟨done, _ | request⟩ <;> rfl

theorem settled_attended : (supervision.attended plan visit).1.Settled :=
  Gateway.settled_run plan _ visit.happenings

theorem standing_of_fatal {opening : Nat} {gateway : Gateway} (settled : gateway.Settled)
    {reason : String} (dead : gateway.station.session.stage = .fatal reason) :
    supervision.standing opening gateway = supervision.again gateway.station.around.publisher
      (some (opening + gateway.station.around.clock)) := by
  have ended := (Gateway.state_ended_iff settled reason).mpr dead
  rw [standing, ended]

private theorem of_standing_again {opening : Nat} {gateway : Gateway}
    (gone : supervision.standing opening gateway = .again lasted next pause) :
    Ending.again lasted next pause = supervision.again gateway.station.around.publisher
      (some (opening + gateway.station.around.clock)) := by
  unfold standing at gone
  split at gone
  · cases gone
  · cases gone
  · exact gone.symm

theorem of_visited_again
    (gone : (supervision.visited plan visit).1 = .again lasted next pause) :
    Ending.again lasted next pause =
      supervision.again (supervision.attended plan visit).1.station.around.publisher
        (some (visit.opening + (supervision.attended plan visit).1.station.around.clock)) := by
  rw [fst_visited] at gone
  split at gone
  · cases gone
  · exact of_standing_again gone

/-- A daemon that hangs up as soon as the connection has been opened. -/
theorem visited_hungUp (positive : 0 < plan.epochLength) (supervision : Supervision)
    (opening : Nat) :
    (supervision.visited plan ⟨opening, true, none, [.hungUp]⟩).1 =
      supervision.again { supervision.publisher with up := true } (some opening) := by
  have attended : (supervision.attended plan ⟨opening, true, none, [.hungUp]⟩).1 =
      ((plan.start { supervision.publisher with up := true }).1.run [.hungUp]).1 := rfl
  have patient : supervision.untaken? plan ⟨opening, true, none, [.hungUp]⟩ = none := rfl
  have settled := Gateway.settled_run plan { supervision.publisher with up := true } [.hungUp]
  have up : ({ supervision.publisher with up := true } : Publisher).up = true := rfl
  obtain ⟨dead, around⟩ := Gateway.run_hungUp positive up
  rw [fst_visited, patient, attended]
  dsimp only
  rw [standing_of_fatal settled dead, around]
  rfl

end Visit

end Supervision

end ButtonGateway
