import ButtonGateway.Broker.Client
import ButtonGateway.Text.Utf8
import ButtonGateway.Wire.Bytes
/-!
Packets between a client and its broker, in version 3.1.1 of MQTT. Of the packets that a broker
sends, those count that say what became of a connection or of a publication.
-/
namespace ButtonGateway.Broker

open Wire

structure Greeting where
  clientId : String
  /-- After so many seconds of silence the client gives a sign of life. -/
  keepAlive : Nat
  /-- What the broker publishes when the connection breaks. -/
  will : Publication
  deriving DecidableEq, Repr

/-- How a client of an account introduces itself: when it is gone, the gateway is offline. -/
def Greeting.ofAccount (account : Account) (topics : Topics) : Greeting :=
  ⟨account.clientId, account.keepAlive / 1000, Client.availability topics false⟩

inductive Packet where
  /-- A new connection, for which the broker remembers nothing of earlier ones. -/
  | connect (greeting : Greeting)
  /-- A publication that the broker has to acknowledge under its number. -/
  | publish (number : UInt16) (publication : Publication)
  | ping
  deriving DecidableEq, Repr

namespace Packet

/-- A number of two bytes, the more significant one first. -/
def word (number : Nat) : Bytes := (toLittleEndian 2 number).reverse

def text (content : String) : Bytes :=
  let bytes := Text.utf8 content
  word bytes.length ++ bytes

/-- The base-128 digits of a length, least significant first; the last one has no top bit. -/
def lengthBytes (length : Nat) : Bytes :=
  if length < 128 then [UInt8.ofNat length]
  else UInt8.ofNat (length % 128 + 128) :: lengthBytes (length / 128)

/-- The first byte of a publication: it has to be acknowledged, and may be retained. -/
def publishByte (retained : Bool) : UInt8 := if retained then 0x33 else 0x32

/-- The first byte of a packet, and what stands behind its length. -/
def parts : Packet → UInt8 × Bytes
  | .connect greeting =>
    (0x10, text "MQTT" ++ [4, if greeting.will.retained then 0x2E else 0x0E] ++
      word greeting.keepAlive ++ text greeting.clientId ++ text greeting.will.topic ++
      text greeting.will.payload)
  | .publish number publication =>
    (publishByte publication.retained,
      text publication.topic ++ word number.toNat ++ Text.utf8 publication.payload)
  | .ping => (0xC0, [])

def encode (packet : Packet) : Bytes :=
  let (first, content) := packet.parts
  first :: lengthBytes content.length ++ content

end Packet

namespace Signal

/-- The length at the front of bytes, in at most so many digits. -/
def length? : Nat → Bytes → Option (Nat × Bytes)
  | 0, _ | _, [] => none
  | digits + 1, byte :: rest =>
    if byte < 128 then some (byte.toNat, rest)
    else (length? digits rest).map fun (higher, after) =>
      (byte.toNat - 128 + 128 * higher, after)

private theorem length_le_of_length? {digits : Nat} {bytes rest : Bytes} {length : Nat}
    (found : length? digits bytes = some (length, rest)) : rest.length ≤ bytes.length := by
  induction digits generalizing bytes length rest with
  | zero => simp [length?] at found
  | succ digits ih =>
    match bytes with
    | [] => simp [length?] at found
    | byte :: tail =>
      simp only [length?] at found
      split at found
      · obtain ⟨_, rfl⟩ := Prod.mk.inj (Option.some.inj found)
        simp
      · obtain ⟨⟨higher, after⟩, inner, same⟩ := Option.map_eq_some_iff.1 found
        obtain ⟨_, rfl⟩ := Prod.mk.inj same
        exact Nat.le_succ_of_le (ih inner)

def ofPacket (first : UInt8) (content : Bytes) : Signal :=
  match first >>> 4, content with
  | 2, [_, 0] => .accepted
  | 2, _ => .refused
  | 4, _ => .acknowledged
  | _, _ => .other

/-- The signal of the first complete packet, and the bytes behind it. -/
def next? : Bytes → Option (Signal × Bytes)
  | [] => none
  | first :: bytes =>
    match length? 4 bytes with
    | some (length, rest) =>
      if length ≤ rest.length then
        some (ofPacket first (rest.take length), rest.drop length)
      else none
    | none => none

theorem length_lt_of_next? {buffer rest : Bytes} {signal : Signal}
    (found : next? buffer = some (signal, rest)) : rest.length < buffer.length := by
  match buffer with
  | [] => simp [next?] at found
  | first :: bytes =>
    simp only [next?] at found
    split at found
    · rename_i length after read
      have shorter := length_le_of_length? read
      split at found
      · obtain ⟨_, rfl⟩ := Prod.mk.inj (Option.some.inj found)
        simp only [List.length_drop, List.length_cons]
        omega
      · cases found
    · cases found

/-- The signals of all complete packets, and the bytes of an incomplete one. -/
def split (buffer : Bytes) : List Signal × Bytes :=
  match _found : next? buffer with
  | some (signal, rest) =>
    let others := split rest
    (signal :: others.1, others.2)
  | none => ([], buffer)
  termination_by buffer.length
  decreasing_by exact length_lt_of_next? _found

end Signal

end ButtonGateway.Broker
