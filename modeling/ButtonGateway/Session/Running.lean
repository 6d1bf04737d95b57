import ButtonGateway.Session.Station

namespace ButtonGateway.Station

private theorem of_refresh {station next : Station} {effects : List Effect}
    (entered : station.refresh = (.ok next, effects)) :
    next.inbox = station.inbox ∧ station.around.clock ≤ next.around.clock ∧
      next.session.stage = .dispatching := by
  unfold refresh Station.entered Session.refresh Session.openEpoch at entered
  split at entered
  · rename_i session around _ opened
    cases entered
    split at opened
    · cases opened
    · cases opened
      exact ⟨rfl, Session.clock_le_repair station.around, rfl⟩
  · cases entered

/-- The station after its session began to wait anew: a notice that was expected before then has
been expected for longer than the end of the epoch. -/
def waitAnew (station : Station) : Station := { station with noticesFirst := true }

/-- Runs on until a given time. The last part says which command could not be written, if the run
ended for that. An epoch without length would be followed by the next one forever; the run stops
there. -/
def runUntil (limit : Nat) (station : Station) : Station × List Effect × Option CommandFailure :=
  match _stage : station.session.stage with
  | .starting | .fatal _ => (station, [], none)
  | .epochTimedOut =>
    match _refresh : station.refresh with
    | (.error failure, effects) => (station, effects, some failure)
    | (.ok next, effects) =>
      if next.isBeforeDeadline then
        let others := runUntil limit next.waitAnew
        (others.1, effects ++ others.2.1, others.2.2)
      else (next, effects, none)
  | .dispatching =>
    match _step : station.step? (fun instant => decide (instant ≤ limit)) with
    | some next =>
      let others := runUntil limit next.1.waitAnew
      (others.1, next.2 ++ others.2.1, others.2.2)
    | none => (station.setClock (max station.around.clock limit), [], none)
  termination_by (limit - station.around.clock, station.bustle)
  decreasing_by
    · rename_i ahead
      obtain ⟨inbox, later, stage⟩ := of_refresh _refresh
      refine lex_of_progress (.inr ⟨later, ?_⟩)
      simp [bustle, waitAnew, inbox, stage, _stage, ← ahead, isBeforeDeadline]
    · refine lex_of_progress ?_
      rcases progress_step _stage _step with ⟨before, timely, reached⟩ | progress
      · have timely := of_decide_eq_true timely
        exact .inl ⟨by omega, reached ▸ before⟩
      · exact .inr progress

end ButtonGateway.Station
