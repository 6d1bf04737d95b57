import ButtonGateway.Invocation
import ButtonGateway.Service.Supervision
import ButtonGateway.Service.Terminal

namespace ButtonGateway

def Invocation.run : Invocation → IO Unit
  | .usage => IO.eprint Invocation.help
  | .console host port => Service.Terminal.run host port
  | .gateway settings => Service.run settings

end ButtonGateway

open ButtonGateway in
/-- The program: what goes wrong is told and makes it fail. -/
def main (arguments : List String) : IO UInt32 := do
  match Invocation.ofArguments arguments with
  | .error refusal =>
    IO.eprintln ("Error: " ++ refusal.message)
    return 1
  | .ok invocation =>
    try
      invocation.run
      return 0
    catch failure =>
      IO.eprintln ("Error: " ++ toString failure)
      return 1
