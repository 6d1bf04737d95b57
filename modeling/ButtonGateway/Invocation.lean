import ButtonGateway.Text.Numeral

namespace ButtonGateway

inductive Invocation where
  | usage
  | console (host : String) (port : UInt16)
  /-- The gateway, with a settings file other than the usual one. -/
  | gateway (settings : Option String)
  deriving DecidableEq, Repr

namespace Invocation

structure InvalidPort where
  text : String
  reason : Text.Decimal.Refusal
  deriving DecidableEq, Repr

def InvalidPort.message (refusal : InvalidPort) : String :=
  "Invalid daemon port '" ++ refusal.text ++ "': " ++ refusal.reason.message

def daemonPort : UInt16 := 5551

/-- Reads the arguments. The console ignores what follows the port. -/
def ofArguments : List String → Except InvalidPort Invocation
  | ["-interact", host] => .ok (.console host daemonPort)
  | "-interact" :: host :: port :: _ =>
    match Text.Decimal.uint16 port.toList with
    | .ok number => .ok (.console host number)
    | .error reason => .error ⟨port, reason⟩
  | ["-mqtt"] => .ok (.gateway none)
  | ["-mqtt", settings] => .ok (.gateway (some settings))
  | _ => .ok .usage

def help : String :=
  "flic2mqtt                               # this message\n" ++
  "flic2mqtt -interact host [port]         " ++
    "# run an interactive daemon console against host[:port]\n" ++
  "flic2mqtt -mqtt [config.toml]           # run the MQTT gateway with settings from config.toml\n"

end Invocation

end ButtonGateway
