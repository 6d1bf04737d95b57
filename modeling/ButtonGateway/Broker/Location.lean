import ButtonGateway.Text.Numeral
import ButtonGateway.Text.Split
/-!
Where a broker listens, written as `tcp://host:port`, `mqtt://host:port` or plainly as `host:port`;
the port may be left out and slashes may follow. And how the gateway presents itself there, and how
patient it is, with times in milliseconds.
-/
namespace ButtonGateway.Broker

structure Location where
  host : String
  port : UInt16
  deriving DecidableEq, Repr

structure InvalidUrl where
  url : String
  deriving DecidableEq, Repr

def InvalidUrl.message (refusal : InvalidUrl) : String :=
  "Invalid broker url '" ++ refusal.url ++ "', expected tcp://host[:port]"

namespace Location

def defaultPort : UInt16 := 1883

def schemes : List (List Char) := ["tcp://".toList, "mqtt://".toList]

def withoutScheme (url : List Char) : List Char :=
  match schemes.find? (fun scheme => scheme.isPrefixOf url) with
  | some scheme => url.drop scheme.length
  | none => url

/-- The host and the port in a text without scheme and without slashes at its end. -/
def split? (text : List Char) : Option (List Char × UInt16) :=
  match Text.splitLast? ':' text with
  | some (host, port) =>
    match Text.Decimal.uint16 port with
    | .ok number => some (host, number)
    | .error _ => none
  | none => some (text, defaultPort)

def isHost (host : List Char) : Bool := !host.isEmpty && !host.contains '/'

def parse (url : String) : Except InvalidUrl Location :=
  match split? (Text.dropTrailing '/' (withoutScheme url.toList)) with
  | some (host, port) => if isHost host then .ok ⟨String.ofList host, port⟩ else .error ⟨url⟩
  | none => .error ⟨url⟩

end Location

/-- A broker, the name to use there, and the limits of one client. -/
structure Account where
  location : Location
  clientId : String
  keepAlive : Nat := 20000
  connectTimeout : Nat := 5000
  reconnectDelay : Nat := 1000
  /-- How many publications may wait for their acknowledgement. -/
  maxOutstanding : Int := 16
  /-- How many requests may wait for the client to send them. -/
  requestCapacity : Nat := 64
  deriving DecidableEq, Repr

def Account.ofUrl (url clientId : String) : Except InvalidUrl Account :=
  match Location.parse url with
  | .ok location => .ok { location, clientId }
  | .error refusal => .error refusal

end ButtonGateway.Broker
