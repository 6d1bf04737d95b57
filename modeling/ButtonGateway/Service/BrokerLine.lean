import ButtonGateway.Broker.Packet
import ButtonGateway.Service.Stream

namespace ButtonGateway.Service

open Broker

structure BrokerLine where
  account : Account
  client : Client
  stream : Option Stream
  /-- The bytes of a packet that is not complete yet. -/
  incomplete : Wire.Bytes
  number : UInt16
  /-- When the last packet went out, in milliseconds. -/
  spokeAt : Nat

namespace BrokerLine

def start (account : Account) (topics : Topics) : BrokerLine :=
  ⟨account, .start account topics, none, [], 0, 0⟩

/-- Closes a line whose client has died. -/
def settle (line : BrokerLine) : IO BrokerLine := do
  if line.client.isAlive then return line
  if let some stream := line.stream then
    try stream.shutdown.block catch _ => pure ()
  return { line with stream := none, incomplete := [] }

def tell (line : BrokerLine) (signals : List Signal) : IO BrokerLine :=
  settle { line with client := signals.foldl Client.hear line.client }

def speak (line : BrokerLine) (packet : Packet) : IO BrokerLine := do
  match line.stream with
  | none => return line
  | some stream =>
    try
      stream.write packet.encode
      return { line with spokeAt := ← IO.monoMsNow }
    catch _ => line.tell [.broken]

/-- The number after another one; no publication has the number zero. -/
def following (number : UInt16) : UInt16 := if number = 65535 then 1 else number + 1

def flush (line : BrokerLine) : IO BrokerLine := do
  let (client, publications) := line.client.flush
  publications.foldlM (fun line publication => do
      let number := following line.number
      speak { line with number } (.publish number publication))
    { line with client }

/-- Takes what the broker sent; nothing stands for the end of the stream. -/
def take (line : BrokerLine) : Option ByteArray → IO BrokerLine
  | none => line.tell [.broken]
  | some chunk => do
    let (signals, incomplete) := Signal.split (line.incomplete ++ chunk.toList)
    (← tell { line with incomplete } signals).flush

/-- Waits for the broker's answer to an attempt until a given time. -/
partial def awaitAnswer (line : BrokerLine) (limit : Nat) : IO BrokerLine := do
  let now ← IO.monoMsNow
  match line.stream with
  | none => return line
  | some stream =>
    unless line.client.link.isAwaited now limit do return line
    let heard ← try await [stream.selectable some] (limit - now) none
      catch _ => pure (some none)
    match heard with
    | some chunk => (← line.take chunk).awaitAnswer limit
    | none => return line

/-- Opens the line anew. A client that existed before is given up, and a moment passes. -/
def connect (line : BrokerLine) : IO BrokerLine := do
  if let some stream := line.stream then
    try stream.shutdown.block catch _ => pure ()
  if line.client.life ≠ .absent then IO.sleep line.account.reconnectDelay.toUInt32
  let location := line.account.location
  let limit := (← IO.monoMsNow) + line.account.connectTimeout
  let fresh := { line with client := line.client.renew, stream := none, incomplete := [] }
  try
    let stream ← Stream.dial location.host location.port
    let greeting := Greeting.ofAccount line.account line.client.topics
    (← speak { fresh with stream := some stream } (.connect greeting)).awaitAnswer limit
  catch _ => fresh.tell [.broken]

/-- Changes the client and sends what it then has ready. -/
def change (line : BrokerLine) (act : Client → Client) : IO BrokerLine :=
  flush { line with client := act line.client }

def keepAlive (line : BrokerLine) : IO BrokerLine := do
  let now ← IO.monoMsNow
  if line.client.life = .connected ∧ line.spokeAt + line.account.keepAlive ≤ now then
    line.speak .ping
  else return line

end BrokerLine

end ButtonGateway.Service
