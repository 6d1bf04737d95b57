/-!
The link to a broker: whether it counts as up, and how many publications wait for their
acknowledgement. Too many of them take the link down until the next connection.
-/
namespace ButtonGateway.Broker

inductive LinkEvent where
  | attempt
  /-- A publication is about to be handed to the client. -/
  | send
  | connected
  | connectFailed
  | sendComplete
  | sendFailed
  | connectionLost
  deriving DecidableEq, Repr

structure Link where
  up : Bool
  outstanding : Int
  /-- How many publications may wait while the link is up. -/
  limit : Int
  /-- Whether the current attempt has an answer, either way. -/
  settled : Bool
  deriving DecidableEq, Repr

namespace Link

def start (limit : Int) : Link := ⟨false, 0, limit, false⟩

/-- Takes note of a changed number of waiting publications; too many take the link down, and
nothing but a new connection brings it up again. -/
def count (link : Link) (outstanding : Int) : Link :=
  { link with outstanding, up := link.up && decide (outstanding ≤ link.limit) }

def after (link : Link) : LinkEvent → Link
  | .attempt => { link with up := false, settled := false }
  | .send => link.count (link.outstanding + 1)
  | .connected => { link with up := true, outstanding := 0, settled := true }
  | .connectFailed => { link with up := false, settled := true }
  | .sendComplete => link.count (link.outstanding - 1)
  | .sendFailed | .connectionLost => { link with up := false }

def afterAll (link : Link) (history : List LinkEvent) : Link := history.foldl after link

/-- Whether a wait for the answer to the current attempt goes on: there is no answer yet, and the
wait has not reached its limit. -/
def isAwaited (link : Link) (now limit : Nat) : Bool := !link.settled && decide (now < limit)

end Link

end ButtonGateway.Broker
