import ButtonGateway.Address
import ButtonGateway.Enumeration
import ButtonGateway.Text.Utf8
/-!
Typed fields of a packet, each with one way of reading and one of writing. Reading takes the field
off the front of a byte string and says what is left, also when it fails.
-/
namespace ButtonGateway.Wire

/-- The outcome of reading, and the bytes that it left unread. -/
abbrev Reading (α : Type) := Except Fault α × Bytes

def Reading.map {α β : Type} (f : α → β) (reading : Reading α) : Reading β :=
  (reading.1.map f, reading.2)

/-- Goes on reading where a successful reading ended. -/
def Reading.andThen {α β : Type} (reading : Reading α) (next : α → Bytes → Reading β) :
    Reading β :=
  match reading with
  | (.ok value, rest) => next value rest
  | (.error fault, rest) => (.error fault, rest)

/-- Takes a block of bytes, or nothing if fewer are left. -/
def take (count : Nat) (bytes : Bytes) : Reading (Octets count) :=
  if enough : count ≤ bytes.length then (.ok (Octets.ofTake count bytes enough), bytes.drop count)
  else (.error (.truncated count bytes.length), bytes)

def takeNumber (count : Nat) (bytes : Bytes) : Reading Nat :=
  (take count bytes).map (fun block => ofLittleEndian block.val)

def takeAddress (bytes : Bytes) : Reading Address :=
  (take 6 bytes).map Address.mk

def takeAddresses : Nat → Bytes → Reading (List Address)
  | 0, bytes => (.ok [], bytes)
  | count + 1, bytes =>
    (takeAddress bytes).andThen fun address rest =>
      (takeAddresses count rest).map (address :: ·)

/-- How many bytes a text field holds besides its length. -/
def textWidth : Nat := 16

def maxListed : Nat := 65535

inductive Field : Type → Type 1 where
  | u8 : Field UInt8
  | i8 : Field Int8
  /-- One byte; every value but zero is true. -/
  | flag : Field Bool
  | u16 : Field UInt16
  | i16 : Field Int16
  | u32 : Field UInt32
  | i64 : Field Int64
  | code (α : Type) [DecidableEq α] [Enumeration α] : Field α
  | octets (count : Nat) : Field (Octets count)
  | address : Field Address
  /-- A length byte and sixteen bytes, of which that many spell the text. -/
  | text : Field String
  /-- A sixteen bit count and that many addresses. -/
  | addresses : Field (List Address)

namespace Field

def read {α : Type} : Field α → Bytes → Reading α
  | .u8, bytes => (takeNumber 1 bytes).map UInt8.ofNat
  | .i8, bytes => (takeNumber 1 bytes).map fun number => (UInt8.ofNat number).toInt8
  | .flag, bytes => (takeNumber 1 bytes).map (· != 0)
  | .u16, bytes => (takeNumber 2 bytes).map UInt16.ofNat
  | .i16, bytes => (takeNumber 2 bytes).map fun number => (UInt16.ofNat number).toInt16
  | .u32, bytes => (takeNumber 4 bytes).map UInt32.ofNat
  | .i64, bytes => (takeNumber 8 bytes).map fun number => (UInt64.ofNat number).toInt64
  | @Field.code _ _ _, bytes =>
    (takeNumber 1 bytes).andThen fun number rest => (Enumeration.ofCode (UInt8.ofNat number), rest)
  | .octets count, bytes => take count bytes
  | .address, bytes => takeAddress bytes
  | .text, bytes =>
    (takeNumber 1 bytes).andThen fun length rest =>
      (take textWidth rest).map fun block => Text.decode (block.val.take (min length textWidth))
  | .addresses, bytes =>
    (takeNumber 2 bytes).andThen fun count rest => takeAddresses count rest

/-- Writes a field. A text is cut to the field's width at a character boundary and padded with
zeros; of a list too long for its count, the beginning is written. -/
def write {α : Type} : Field α → α → Bytes
  | .u8, value => toLittleEndian 1 value.toNat
  | .i8, value => toLittleEndian 1 value.toUInt8.toNat
  | .flag, value => [if value then 1 else 0]
  | .u16, value => toLittleEndian 2 value.toNat
  | .i16, value => toLittleEndian 2 value.toUInt16.toNat
  | .u32, value => toLittleEndian 4 value.toNat
  | .i64, value => toLittleEndian 8 value.toUInt64.toNat
  | @Field.code _ _ _, value => [Enumeration.code value]
  | .octets _, value => value.val
  | .address, value => value.octets.val
  | .text, value =>
    let spelled := Text.utf8 (Text.clip textWidth value)
    UInt8.ofNat spelled.length :: spelled ++ List.replicate (textWidth - spelled.length) 0
  | .addresses, value =>
    let listed := value.take maxListed
    toLittleEndian 2 listed.length ++ listed.flatMap (·.octets.val)

/-- What is left of a value once it has been written: a text or a list that is too long is cut. -/
def canonical {α : Type} : Field α → α → α
  | .text, value => Text.clip textWidth value
  | .addresses, value => value.take maxListed
  | _, value => value

end Field

end ButtonGateway.Wire
