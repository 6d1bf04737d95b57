import ButtonGateway.Wire.Field
/-!
Layouts: fields that follow one another. A packet's body is an opcode followed by the record of a
layout, and one layout serves both reading and writing.
-/
namespace ButtonGateway.Wire

/-- A sequence of fields, by the type of its records. -/
inductive Layout : Type → Type 1 where
  | nil : Layout Unit
  | cons {α β : Type} (field : Field α) (rest : Layout β) : Layout (α × β)

namespace Layout

/-- Reads a record field by field; the first failing field decides the fault. -/
def read {α : Type} : Layout α → Bytes → Reading α
  | .nil, bytes => (.ok (), bytes)
  | .cons field layout, bytes =>
    (field.read bytes).andThen fun value rest =>
      (layout.read rest).map fun others => (value, others)

def write {α : Type} : Layout α → α → Bytes
  | .nil, () => []
  | .cons field layout, (value, others) => field.write value ++ layout.write others

def canonical {α : Type} : Layout α → α → α
  | .nil, () => ()
  | .cons field layout, (value, others) => (field.canonical value, layout.canonical others)

end Layout

abbrev AnyField := (α : Type) × Field α

/-- A field with the outcome of reading it and the number of bytes left unread. -/
structure Step where
  {Value : Type}
  field : Field Value
  outcome : Except Fault Value
  remaining : Nat

/-- Reads fields one after another, going on behind a failure from wherever it left the bytes. -/
def readEach : List AnyField → Bytes → List Step
  | [], _ => []
  | ⟨_, field⟩ :: rest, bytes =>
    let reading := field.read bytes
    ⟨field, reading.1, reading.2.length⟩ :: readEach rest reading.2

end ButtonGateway.Wire
