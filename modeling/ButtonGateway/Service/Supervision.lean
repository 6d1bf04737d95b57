import ButtonGateway.Calendar
import ButtonGateway.Service.BrokerLine
import ButtonGateway.Settings.File
import ButtonGateway.Supervision

namespace ButtonGateway.Service

inductive Arrival where
  | daemon (chunk : Option ByteArray)
  | broker (chunk : Option ByteArray)
  | nothing

/-- How long the service waits at most before it looks at the clock, in milliseconds. -/
def interval : Nat := 500

def instant : IO String := do
  let now ← Std.Time.Timestamp.now
  return Calendar.instantText now.toSecondsSinceUnixEpoch.val

def arrival (line : BrokerLine) (daemon : Option Stream) (milliseconds : Nat) : IO Arrival :=
  await (daemon.toList.map (·.selectable Arrival.daemon) ++
    line.stream.toList.map (·.selectable Arrival.broker)) milliseconds .nothing

def perform (daemon : Stream) (line : BrokerLine) :
    Effect → IO (BrokerLine × Option CommandFailure)
  | .announce online => return (← line.change (·.announce online), none)
  | .publish slot gesture => do
    let payload := gesture.payload (← instant)
    return (← line.change (·.write slot gesture.topic payload), none)
  | .reconnect => return (← line.connect, none)
  | .command request => return (line, ← daemon.send request)

/-- Does one thing after another until a command cannot be written. -/
def performAll (daemon : Stream) (line : BrokerLine) :
    List Effect → IO (BrokerLine × Option CommandFailure)
  | [] => return (line, none)
  | effect :: rest => do
    match ← perform daemon line effect with
    | (after, none) => performAll daemon after rest
    | (after, failure) => return (after, failure)

/-- What happens on a connection when something arrives. -/
def happenings (gateway : Gateway) (line : BrokerLine) (seconds : Nat) (arrived : Arrival) :
    List Happening :=
  .publisher line.client.link.up :: .elapsed (seconds - gateway.clock) ::
    match arrived with
    | .daemon (some chunk) => [.sent chunk.toList]
    | .daemon none => [.hungUp]
    | .broker _ | .nothing => []

/-- Serves a connection that was opened so many seconds after a given time, until it ends. -/
partial def attend (daemon : Stream) (startedAt opening : Nat) (supervision : Supervision)
    (line : BrokerLine) (gateway : Gateway) (effects : List Effect) :
    IO (BrokerLine × Supervision.Ending) := do
  match ← performAll daemon line effects with
  | (line, some failure) => return (line, .failed failure)
  | (line, none) =>
    match supervision.standing opening gateway with
    | .again lasted next pause => return (line, .again lasted next pause)
    | .failed failure => return (line, .failed failure)
    | .running _ =>
      let arrived ← try arrival line (some daemon) interval catch _ => pure (.daemon none)
      let line ← match arrived with
        | .broker chunk => line.take chunk
        | .daemon _ | .nothing => line.keepAlive
      let seconds := ((← IO.monoMsNow) - startedAt) / 1000 - opening
      let (gateway, effects) := gateway.run (happenings gateway line seconds arrived)
      attend daemon startedAt opening supervision line gateway effects

partial def rest (line : BrokerLine) (limit : Nat) : IO BrokerLine := do
  let now ← IO.monoMsNow
  if limit ≤ now then return line
  match ← arrival line none (min interval (limit - now)) with
  | .broker chunk => rest (← line.take chunk) limit
  | .daemon _ | .nothing => rest (← line.keepAlive) limit

/-- Serves one connection after another until a command cannot be written. -/
partial def supervise (settings : DaemonSettings) (plan : Plan) (supervision : Supervision)
    (line : BrokerLine) : IO CommandFailure := do
  let startedAt ← IO.monoMsNow
  let (line, ending) ← try
      let daemon ← Stream.dial settings.host settings.port
      let opening := ((← IO.monoMsNow) - startedAt) / 1000
      let (gateway, effects) := supervision.opened plan line.client.link.up
      attend daemon startedAt opening supervision line gateway effects
    catch failure =>
      IO.eprintln (toString failure)
      pure (line, supervision.refused)
  match ending with
  | .failed failure => return failure
  | .again _ next pause =>
    let line ← rest line ((← IO.monoMsNow) + pause.toNat)
    supervise settings plan next line
  | .running _ => supervise settings plan supervision line

/-- The settings in a file, or in the usual one. -/
def loadSettings (file : Option String) : IO Settings := do
  let path ← match file with
    | some path => pure path
    | none =>
      match ← IO.getEnv "HOME" with
      | some home => pure (Settings.usualPath home (← IO.getEnv "XDG_CONFIG_HOME"))
      | none => throw (IO.userError "No configuration directory available on this system")
  let content ← try some <$> IO.FS.readBinFile path catch _ => pure none
  match Settings.ofFile (content.map ByteArray.toList) with
  | .ok settings => return settings
  | .error .unread => throw (IO.userError ("Failed to read settings file " ++ path))
  | .error (.refused .unreadable) => throw (IO.userError "Failed to parse settings")
  | .error (.refused (.invalid violation)) => throw (IO.userError violation.message)

def run (file : Option String) : IO Unit := do
  let settings ← loadSettings file
  match settings.account with
  | .error refusal => throw (IO.userError refusal.message)
  | .ok account =>
    let line ← (BrokerLine.start account settings.topics).connect
    let failure ← supervise settings.daemon (.ofSettings settings) ⟨0, { up := true }⟩ line
    throw (IO.userError failure.message)

end ButtonGateway.Service
