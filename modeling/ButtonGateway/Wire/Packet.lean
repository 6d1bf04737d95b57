import ButtonGateway.Wire.Layout

namespace ButtonGateway.Wire

structure Packet where
  {Record : Type}
  opcode : UInt8
  layout : Layout Record
  record : Record

def Packet.bytes (packet : Packet) : Bytes :=
  packet.opcode :: packet.layout.write packet.record

/-- What follows an opcode, and the value that a record makes. -/
structure Shape (σ : Type) where
  {Record : Type}
  layout : Layout Record
  make : Record → σ

def Shape.read {σ : Type} (shape : Shape σ) (bytes : Bytes) : Reading σ :=
  (shape.layout.read bytes).map shape.make

/-- A packet under construction. -/
structure Draft where
  bytes : Bytes
  deriving DecidableEq, Repr

namespace Draft

def start (opcode : UInt8) : Draft := ⟨[opcode]⟩

def put {α : Type} (draft : Draft) (field : Field α) (value : α) : Draft :=
  ⟨draft.bytes ++ field.write value⟩

def putBytes (draft : Draft) (bytes : Bytes) : Draft :=
  ⟨draft.bytes ++ bytes⟩

/-- Hands the bytes over and leaves nothing behind, not even an opcode. -/
def finish (draft : Draft) : Bytes × Draft := (draft.bytes, ⟨[]⟩)

end Draft

end ButtonGateway.Wire
