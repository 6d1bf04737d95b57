import ButtonGateway.Gesture.Tracker
import ButtonGateway.Proofs.Slot

namespace ButtonGateway.GestureTracker

open Daemon (Click)

def Counted (tracker : GestureTracker) : Prop :=
  tracker.heldCount = tracker.holding.count true

theorem counted_start : start.Counted := by
  simp [Counted, start, Vector.count_replicate]

theorem holding_setHolding (tracker : GestureTracker) (slot : Slot) (pending : Bool) :
    (tracker.setHolding slot pending).holding = tracker.holding.set slot pending slot.isLt := by
  unfold setHolding
  split
  · rename_i same
    rw [← same]
    exact (Vector.set_getElem_self slot.isLt).symm
  · rfl

theorem counted_setHolding {tracker : GestureTracker} (counted : tracker.Counted) (slot : Slot)
    (pending : Bool) : (tracker.setHolding slot pending).Counted := by
  unfold Counted at counted ⊢
  rw [holding_setHolding, Vector.count_set]
  unfold setHolding
  have flag : tracker.holding.get slot = tracker.holding[slot.val] := rfl
  have least : (if tracker.holding[slot.val] == true then 1 else 0) ≤ tracker.holding.count true :=
    Vector.boole_getElem_le_count slot.isLt
  rw [flag]
  cases old : tracker.holding[slot.val] <;> cases pending <;> simp_all

private theorem counted_setPhase {tracker : GestureTracker} (counted : tracker.Counted)
    (slot : Slot)
    (phase : Phase) : (tracker.setPhase slot phase).Counted := counted

private theorem counted_applyAt {tracker : GestureTracker} (counted : tracker.Counted) (slot : Slot)
    (made : Click) : (tracker.applyAt slot made).1.Counted := by
  cases made with
  | down => exact counted_setHolding counted slot false
  | up =>
    unfold applyAt
    dsimp only
    split <;> exact counted
  | click => exact counted
  | singleClick | doubleClick =>
    exact counted_setHolding (counted_setPhase counted slot .idle) slot false
  | hold => exact counted_setHolding counted slot true

theorem counted_apply {tracker : GestureTracker} (counted : tracker.Counted) (slot : UInt8)
    (made : Click) : (tracker.apply slot made).1.Counted := by
  unfold apply
  split
  · exact counted_applyAt counted _ made
  · exact counted

theorem counted_cancelHold {tracker : GestureTracker} (counted : tracker.Counted) (slot : UInt8) :
    (tracker.cancelHold slot).1.Counted := by
  unfold cancelHold
  split
  · split
    · exact counted_setHolding counted _ false
    · exact counted
  · exact counted

/-- A hold is pending exactly if it is on some slot. -/
theorem holdsPending_iff {tracker : GestureTracker} (counted : tracker.Counted) :
    tracker.holdsPending = true ↔ ∃ slot : Slot, tracker.holding.get slot = true := by
  unfold Counted at counted
  rw [holdsPending, decide_eq_true_iff, counted, gt_iff_lt, Vector.count_pos_iff,
    Vector.mem_iff_getElem]
  constructor
  · rintro ⟨index, inside, held⟩
    exact ⟨⟨index, inside⟩, held⟩
  · rintro ⟨slot, held⟩
    exact ⟨slot.val, slot.isLt, held⟩

def Free (tracker : GestureTracker) : Prop :=
  ∀ slot : Slot, tracker.holding.get slot = false

theorem holdsPending_eq_false_iff {tracker : GestureTracker} (counted : tracker.Counted) :
    tracker.holdsPending = false ↔ tracker.Free := by
  rw [← Bool.not_eq_true, holdsPending_iff counted, not_exists]
  simp only [Bool.not_eq_true, Free]

/-- Whether a hold is pending on a slot after a click on it. -/
def heldAfter (held : Bool) : Click → Bool
  | .hold => true
  | .down | .singleClick | .doubleClick => false
  | .up | .click => held

private theorem holding_applyAt (tracker : GestureTracker) (slot : Slot) (made : Click) :
    (tracker.applyAt slot made).1.holding =
      tracker.holding.set slot (heldAfter (tracker.holding.get slot) made) slot.isLt := by
  have unchanged : tracker.holding =
      tracker.holding.set slot (tracker.holding.get slot) slot.isLt :=
    (Vector.set_getElem_self slot.isLt).symm
  cases made with
  | down => exact holding_setHolding tracker slot false
  | up =>
    unfold applyAt
    dsimp only
    split <;> exact unchanged
  | click => exact unchanged
  | singleClick | doubleClick => exact holding_setHolding (tracker.setPhase slot .idle) slot false
  | hold => exact holding_setHolding tracker slot true

/-- A click changes the pending hold of its own slot only. -/
theorem holding_apply (tracker : GestureTracker) (byte : UInt8) (made : Click) (slot : Slot) :
    (tracker.apply byte made).1.holding.get slot =
      if byte.toNat = slot.val then heldAfter (tracker.holding.get slot) made
      else tracker.holding.get slot := by
  unfold apply
  split
  · rename_i place found
    rw [holding_applyAt, PerSlot.get_set, Slot.ofNat?_eq_some_iff.mp found]
    split
    · rename_i same
      rw [Fin.ext same]
    · rfl
  · rename_i missing
    rw [if_neg (Slot.ne_of_ofNat?_eq_none missing slot)]

/-- Dropping a hold leaves those of other slots alone. -/
theorem holding_cancelHold (tracker : GestureTracker) (byte : UInt8) (slot : Slot) :
    (tracker.cancelHold byte).1.holding.get slot =
      if byte.toNat = slot.val then false else tracker.holding.get slot := by
  unfold cancelHold
  split
  · rename_i place found
    rw [Slot.ofNat?_eq_some_iff.mp found]
    split
    · rename_i held
      change ((tracker.setHolding place false).holding).get slot = _
      rw [holding_setHolding, PerSlot.get_set]
    · rename_i free
      split
      · rename_i same
        rw [← Fin.ext same]
        simpa using free
      · rfl
  · rename_i missing
    rw [if_neg (Slot.ne_of_ofNat?_eq_none missing slot)]

end ButtonGateway.GestureTracker
