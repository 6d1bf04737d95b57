import ButtonGateway.Proofs.Wire.Field
import ButtonGateway.Wire.Packet

namespace ButtonGateway.Wire

structure Piece where
  {Value : Type}
  field : Field Value
  bytes : Bytes

namespace Piece

/-- No other bytes could replace these. -/
def Tidy (piece : Piece) : Prop := piece.field.Tidy piece.bytes

/-- If these spell a text, it can be written again as a whole. -/
def Fits (piece : Piece) : Prop := piece.field.Fits piece.bytes

end Piece

namespace Layout

variable {α : Type}

def pieces {α : Type} : Layout α → Bytes → List Piece
  | .nil, _ => []
  | .cons field layout, bytes =>
    ⟨field, field.front bytes⟩ :: layout.pieces (field.read bytes).2

theorem read_write (layout : Layout α) (record : α) (rest : Bytes) :
    layout.read (layout.write record ++ rest) = (.ok (layout.canonical record), rest) := by
  induction layout with
  | nil => rfl
  | cons field layout ih =>
    rw [read, write, List.append_assoc, field.read_write, Reading.andThen, ih]
    rfl

/-- What was read came off the front, piece by piece. Tidy pieces are written again as they were. -/
theorem pieces_of_read {layout : Layout α} {bytes rest : Bytes} {record : α}
    (accepted : layout.read bytes = (.ok record, rest)) :
    bytes = (layout.pieces bytes).flatMap (·.bytes) ++ rest ∧
      ((∀ piece ∈ layout.pieces bytes, piece.Tidy) →
        layout.write record = (layout.pieces bytes).flatMap (·.bytes)) := by
  induction layout generalizing bytes with
  | nil =>
    obtain ⟨_, rfl⟩ := Prod.mk.inj accepted
    exact ⟨rfl, fun _ => rfl⟩
  | cons field layout ih =>
    obtain ⟨value, middle, first, further⟩ := Reading.andThen_eq_ok_iff.mp accepted
    obtain ⟨others, second, rfl⟩ := Reading.map_eq_ok_iff.mp further
    obtain ⟨split, spells⟩ := Field.front_of_read first
    obtain ⟨behind, written⟩ := ih second
    rw [pieces, first, List.flatMap_cons, List.append_assoc, ← behind]
    refine ⟨split, ?_⟩
    intro tidy
    obtain ⟨here, there⟩ := List.forall_mem_cons.mp tidy
    rw [write, written there, ← Field.eq_write_of_spells spells here]

/-- Nothing is cut of a record that was read, if its texts fit. -/
theorem canonical_of_read {layout : Layout α} {bytes rest : Bytes} {record : α}
    (accepted : layout.read bytes = (.ok record, rest))
    (fits : ∀ piece ∈ layout.pieces bytes, piece.Fits) : layout.canonical record = record := by
  induction layout generalizing bytes with
  | nil => rfl
  | cons field layout ih =>
    obtain ⟨value, middle, first, further⟩ := Reading.andThen_eq_ok_iff.mp accepted
    obtain ⟨others, second, rfl⟩ := Reading.map_eq_ok_iff.mp further
    obtain ⟨_, spells⟩ := Field.front_of_read first
    rw [pieces, first] at fits
    obtain ⟨here, there⟩ := List.forall_mem_cons.mp fits
    rw [canonical, Field.canonical_of_spells spells here, ih second there]

end Layout

namespace Shape

variable {σ : Type}

theorem read_write (shape : Shape σ) (record : shape.Record) (rest : Bytes) :
    shape.read (shape.layout.write record ++ rest) =
      (.ok (shape.make (shape.layout.canonical record)), rest) := by
  rw [read, shape.layout.read_write]
  rfl

end Shape

end ButtonGateway.Wire
