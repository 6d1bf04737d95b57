import ButtonGateway.Broker.Link
import ButtonGateway.Broker.Location
import ButtonGateway.Gesture
/-!
A client of a broker. It lives for one connection: an attempt replaces it by a new one, and it dies
with the connection. What is handed to it waits until it is sent, and what is sent waits until the
broker acknowledges it.
-/
namespace ButtonGateway.Broker

structure Publication where
  topic : String
  /-- Whether the broker keeps it for later subscribers. -/
  retained : Bool
  payload : String
  deriving DecidableEq, Repr

inductive Signal where
  | accepted
  | refused
  | acknowledged
  | other
  /-- The connection breaks, or there never was one. -/
  | broken
  deriving DecidableEq, Repr

/-- What becomes of an attempt to connect. -/
inductive Reply where
  | accepted
  | refused
  /-- The connection breaks before there is an answer. -/
  | hungUp
  | silent
  | unreachable
  deriving DecidableEq, Repr

def Reply.signal? : Reply → Option Signal
  | .accepted => some .accepted
  | .refused => some .refused
  | .hungUp | .unreachable => some .broken
  | .silent => none

inductive Life where
  | absent
  | pending
  | connected
  | dead
  deriving DecidableEq, Repr

namespace Life

/-- Whether a client listens to its connection and takes publications. -/
def isAlive : Life → Bool
  | .pending | .connected => true
  | .absent | .dead => false

/-- What the link is told of a signal, if anything. -/
def report? (life : Life) (signal : Signal) : Option LinkEvent :=
  match life, signal with
  | .absent, _ | .dead, _ => none
  | _, .accepted => some .connected
  | _, .refused => some .connectFailed
  | _, .acknowledged => some .sendComplete
  | _, .other => none
  | .pending, .broken => some .connectFailed
  | .connected, .broken => some .connectionLost

/-- How a client lives on after a signal. The first refusal or break is the last signal that
counts. -/
def after (life : Life) (signal : Signal) : Life :=
  match life, signal with
  | .absent, _ | .dead, _ => life
  | _, .accepted => .connected
  | _, .refused | _, .broken => .dead
  | _, .acknowledged | _, .other => life

end Life

structure Client where
  requestCapacity : Nat
  topics : Topics
  link : Link
  life : Life
  queued : List Publication
  /-- What has been sent and not been acknowledged. -/
  unacknowledged : List Publication
  deriving DecidableEq, Repr

namespace Client

def start (account : Account) (topics : Topics) : Client :=
  ⟨account.requestCapacity, topics, .start account.maxOutstanding, .absent, [], []⟩

def note (client : Client) (event : LinkEvent) : Client :=
  { client with link := client.link.after event }

def isAlive (client : Client) : Bool := client.life.isAlive

def hear (client : Client) (signal : Signal) : Client :=
  let report? := client.life.report? signal
  { client with
    link := client.link.afterAll report?.toList
    life := client.life.after signal
    unacknowledged :=
      if report? = some .sendComplete then client.unacknowledged.drop 1
      else client.unacknowledged }

/-- Replaces the client by a new one, which knows nothing of what the old one left undone. -/
def renew (client : Client) : Client :=
  { client.note .attempt with life := .pending, queued := [], unacknowledged := [] }

/-- An attempt to connect, from the new client to its answer. -/
def connect (client : Client) (reply : Reply) : Client :=
  reply.signal?.toList.foldl hear client.renew

/-- Whether a text is a topic rather than a pattern for topics. -/
def isTopic (topic : String) : Bool := topic.toList.all fun char => char != '+' && char != '#'

/-- Whether a publication is taken: a client has to be there, the topic must not be a pattern, and
there has to be room. -/
def takes (client : Client) (publication : Publication) : Bool :=
  client.isAlive && isTopic publication.topic &&
    decide (client.queued.length < client.requestCapacity)

/-- Hands a publication to the client. It is counted before it is known whether it is taken. -/
def publish (client : Client) (publication : Publication) : Client :=
  let counted := client.note .send
  if client.takes publication then { counted with queued := counted.queued ++ [publication] }
  else counted.note .sendFailed

def availability (topics : Topics) (online : Bool) : Publication :=
  ⟨topics.availability, true, if online then "Online" else "Offline"⟩

def announce (client : Client) (online : Bool) : Client :=
  client.publish (availability client.topics online)

/-- Publishes under a topic of a slot. Without such a topic nothing happens. -/
def write (client : Client) (slot : UInt8) (kind : TopicKind) (payload : String) : Client :=
  match client.topics.topic? slot kind with
  | some topic => client.publish ⟨topic, false, payload⟩
  | none => client

/-- Sends what is queued, if the broker has accepted the connection. -/
def flush (client : Client) : Client × List Publication :=
  match client.life with
  | .connected =>
    ({ client with
      queued := []
      unacknowledged := client.unacknowledged ++ client.queued }, client.queued)
  | .absent | .pending | .dead => (client, [])

end Client

end ButtonGateway.Broker
