import ButtonGateway.Console.Line

namespace ButtonGateway.Console

open Daemon

inductive Act where
  | send (command : Command)
  | print (text : String)
  | complain (text : String)
  deriving DecidableEq, Repr

def help : String :=
  "Available commands:\n" ++
  "getInfo - get various info about the server state and previously verified buttons\n" ++
  "startScanWizard - start scan wizard\n" ++
  "cancelScanWizard - cancel scan wizard\n" ++
  "startScan - start a raw scanning of flic buttons\n" ++
  "stopScan - stops raw scanning\n" ++
  "connect xx:xx:xx:xx:xx:xx id - connect a button with a given id\n" ++
  "disconnect id - disconnect a button with a given id\n" ++
  "changeModeParameters id latency_mode auto_disconnect_time - " ++
    "change latency mode (normal, low, high) and auto disconnect time\n" ++
  "forceDisconnect xx:xx:xx:xx:xx:xx - disconnect the specified button from all clients\n" ++
  "getButtonInfo xx:xx:xx:xx:xx:xx - get button info for a verified button\n" ++
  "createBatteryStatusListener xx:xx:xx:xx:xx:xx id - listen to battery status changes\n" ++
  "removeBatteryStatusListener id - stop listening to battery status changes\n" ++
  "delete xx:xx:xx:xx:xx:xx - delete a verified button\n" ++
  "ping id - ping the server\n" ++
  "help - prints this help text\n" ++
  "quit - exit\n"

def advice? : Command → Option String
  | .createWizard _ => some "Please click and hold down your Flic button!\n"
  | _ => none

def acts : Except Refusal Line → List Act
  | .ok .blank | .ok .quit => []
  | .ok .help => [.print help]
  | .ok (.send command) => .send command :: (advice? command).toList.map .print
  | .error refusal => [.complain (refusal.message ++ "\n")]

def isQuit : Except Refusal Line → Bool
  | .ok .quit => true
  | _ => false

def session (lines : List String) : List Act :=
  ((lines.map Line.parse).takeWhile fun line => !isQuit line).flatMap acts

def Act.commands (acts : List Act) : List Command :=
  acts.filterMap fun act =>
    match act with
    | .send command => some command
    | .print _ | .complain _ => none

/-- The bytes that the daemon gets. -/
def Act.written (acts : List Act) : Wire.Bytes := Command.written (Act.commands acts)

end ButtonGateway.Console
