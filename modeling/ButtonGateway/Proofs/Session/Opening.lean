import ButtonGateway.Session.Running

namespace ButtonGateway

namespace Session

private theorem send_of_listening {around : Surroundings} (listening : around.broken = none)
    (commands : List Daemon.Command) :
    send around commands = (.ok (), commands.map .command) := by
  induction commands with
  | nil => rfl
  | cons command rest ih =>
    unfold send
    rw [listening]
    simp [ih]

private theorem openEpoch_of_listening {around : Surroundings} (listening : around.broken = none)
    (session : Session) (commands : List Daemon.Command) :
    session.openEpoch around commands =
      (.ok (session.enterEpoch (repair around).1.clock), (repair around).1,
        commands.map .command ++ (repair around).2) := by
  unfold openEpoch
  rw [send_of_listening listening]

private theorem openEpoch_of_deaf {around : Surroundings} {fault : Fault}
    (deaf : around.broken = some fault) (session : Session) (command : Daemon.Command)
    (rest : List Daemon.Command) :
    session.openEpoch around (command :: rest) =
      (.error ⟨command.opcode, fault⟩, around, []) := by
  unfold openEpoch send
  rw [deaf]

/-- The repair of a link does nothing else. -/
theorem effects_repair (around : Surroundings) :
    (repair around).2 = if around.publisher.up then [] else [.reconnect] := by
  unfold repair
  dsimp only
  split <;> rfl

end Session

namespace Station

/-- The station when an epoch begins, after the repair of the link. -/
def opened (station : Station) : Station :=
  { station with
    session := station.session.enterEpoch (Session.repair station.around).1.clock
    around := (Session.repair station.around).1 }

variable {station next : Station} {effects : List Effect}

/-- A session whose daemon listens starts: what it says, asks and repairs, in this order. -/
theorem start_of_listening (listening : station.around.broken = none) :
    station.start = (.ok station.opened,
      .announce false :: ((.getInfo :: station.session.connectCommands).map .command ++
        (Session.repair station.around).2)) := by
  unfold start Session.start entered
  rw [Session.openEpoch_of_listening listening]
  rfl

theorem refresh_of_listening (listening : station.around.broken = none) :
    station.refresh = (.ok station.opened,
      .command .getInfo :: (Session.repair station.around).2) := by
  unfold refresh Session.refresh entered
  rw [Session.openEpoch_of_listening listening]
  rfl

private theorem start_of_deaf {fault : Fault} (deaf : station.around.broken = some fault) :
    station.start = (.error ⟨Daemon.Command.getInfo.opcode, fault⟩, [.announce false]) := by
  unfold start Session.start entered
  rw [Session.openEpoch_of_deaf deaf]

theorem refresh_of_deaf {fault : Fault} (deaf : station.around.broken = some fault) :
    station.refresh = (.error ⟨Daemon.Command.getInfo.opcode, fault⟩, []) := by
  unfold refresh Session.refresh entered
  rw [Session.openEpoch_of_deaf deaf]

theorem start_ok (started : station.start = (.ok next, effects)) :
    next = station.opened ∧ effects = .announce false ::
      ((.getInfo :: station.session.connectCommands).map .command ++
        (Session.repair station.around).2) := by
  cases broken : station.around.broken with
  | none =>
    rw [start_of_listening broken] at started
    cases started
    exact ⟨rfl, rfl⟩
  | some fault =>
    rw [start_of_deaf broken] at started
    cases started

theorem start_error {failure : CommandFailure}
    (refused : station.start = (.error failure, effects)) :
    effects = [.announce false] := by
  cases broken : station.around.broken with
  | none =>
    rw [start_of_listening broken] at refused
    cases refused
  | some fault =>
    rw [start_of_deaf broken] at refused
    cases refused
    rfl

theorem refresh_ok (refreshed : station.refresh = (.ok next, effects)) :
    next = station.opened ∧ effects = .command .getInfo :: (Session.repair station.around).2 := by
  cases broken : station.around.broken with
  | none =>
    rw [refresh_of_listening broken] at refreshed
    cases refreshed
    exact ⟨rfl, rfl⟩
  | some fault =>
    rw [refresh_of_deaf broken] at refreshed
    cases refreshed

theorem refresh_error {failure : CommandFailure}
    (refused : station.refresh = (.error failure, effects)) : effects = [] := by
  cases broken : station.around.broken with
  | none =>
    rw [refresh_of_listening broken] at refused
    cases refused
  | some fault =>
    rw [refresh_of_deaf broken] at refused
    cases refused
    rfl

end Station

end ButtonGateway
