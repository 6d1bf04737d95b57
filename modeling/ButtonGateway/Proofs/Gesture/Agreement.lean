import ButtonGateway.Proofs.Gesture.History

namespace ButtonGateway.GestureTracker

open Daemon (Click)

def phaseAfter (phase : Phase) : Click → Phase
  | .down => .pressed
  | .up => if phase = .pressed then .idle else phase
  | .hold => .heldDown
  | .singleClick | .doubleClick => .idle
  | .click => phase

theorem phases_setHolding (tracker : GestureTracker) (slot : Slot) (pending : Bool) :
    (tracker.setHolding slot pending).phases = tracker.phases := by
  unfold setHolding
  split <;> rfl

private theorem phases_applyAt (tracker : GestureTracker) (slot : Slot) (made : Click) :
    (tracker.applyAt slot made).1.phases =
      tracker.phases.set slot (phaseAfter (tracker.phases.get slot) made) slot.isLt := by
  have unchanged : tracker.phases = tracker.phases.set slot (tracker.phases.get slot) slot.isLt :=
    (Vector.set_getElem_self slot.isLt).symm
  cases made with
  | down =>
    change ((tracker.setHolding slot false).setPhase slot .pressed).phases = _
    rw [setPhase, phases_setHolding]
    rfl
  | up =>
    unfold applyAt phaseAfter
    dsimp only
    split
    · rfl
    · exact unchanged
  | click => exact unchanged
  | singleClick | doubleClick => exact phases_setHolding (tracker.setPhase slot .idle) slot false
  | hold =>
    change ((tracker.setHolding slot true).setPhase slot .heldDown).phases = _
    rw [setPhase, phases_setHolding]
    rfl

private theorem phase_apply (tracker : GestureTracker) (byte : UInt8) (made : Click) (slot : Slot) :
    (tracker.apply byte made).1.phases.get slot =
      if byte.toNat = slot.val then phaseAfter (tracker.phases.get slot) made
      else tracker.phases.get slot := by
  unfold apply
  split
  · rename_i place found
    rw [phases_applyAt, PerSlot.get_set, Slot.ofNat?_eq_some_iff.mp found]
    split
    · rename_i same
      rw [Fin.ext same]
    · rfl
  · rename_i missing
    rw [if_neg (Slot.ne_of_ofNat?_eq_none missing slot)]

private theorem phase_cancelHold (tracker : GestureTracker) (byte : UInt8) (slot : Slot) :
    (tracker.cancelHold byte).1.phases.get slot =
      if byte.toNat = slot.val ∧ tracker.holding.get slot = true then .idle
      else tracker.phases.get slot := by
  unfold cancelHold
  split
  · rename_i place found
    rw [Slot.ofNat?_eq_some_iff.mp found]
    split
    · rename_i held
      change ((tracker.setHolding place false).phases.set place .idle place.isLt).get slot = _
      rw [PerSlot.get_set, phases_setHolding]
      by_cases same : place.val = slot.val
      · rw [if_pos same, if_pos ⟨same, Fin.ext same ▸ held⟩]
      · rw [if_neg same, if_neg fun both => same both.1]
    · rename_i free
      have other : ¬ (place.val = slot.val ∧ tracker.holding.get slot = true) := by
        rintro ⟨same, held⟩
        exact free (Fin.ext same ▸ held)
      rw [if_neg other]
  · rename_i missing
    rw [if_neg fun both => Slot.ne_of_ofNat?_eq_none missing slot both.1]

private theorem heldAfter_iff {held : Bool} {phase : Phase}
    (agree : held = true ↔ phase = .heldDown)
    (made : Click) : heldAfter held made = true ↔ phaseAfter phase made = .heldDown := by
  cases made with
  | down | singleClick | doubleClick | hold => simp [heldAfter, phaseAfter]
  | click => exact agree
  | up =>
    -- A release ends a press, and what is pressed is not held down.
    change held = true ↔ (if phase = .pressed then .idle else phase) = .heldDown
    rw [agree]
    split
    · rename_i pressed
      simp [pressed]
    · rfl

/-- What a tracker keeps about holds in three ways is kept consistently. -/
structure Consistent (tracker : GestureTracker) : Prop where
  counted : tracker.Counted
  agree : ∀ slot : Slot, tracker.holding.get slot = true ↔ tracker.phases.get slot = .heldDown

private theorem consistent_start : start.Consistent := by
  refine ⟨counted_start, ?_⟩
  intro slot
  have free : start.holding.get slot = false := Vector.getElem_replicate slot.isLt
  have idle : start.phases.get slot = .idle := Vector.getElem_replicate slot.isLt
  simp [free, idle]

private theorem consistent_answer {tracker : GestureTracker} (consistent : tracker.Consistent)
    (call : Call) : (tracker.answer call).1.Consistent := by
  cases call with
  | apply number made =>
    refine ⟨counted_apply consistent.counted number made, ?_⟩
    intro slot
    simp only [answer, holding_apply, phase_apply]
    split
    · exact heldAfter_iff (consistent.agree slot) made
    · exact consistent.agree slot
  | cancelHold number =>
    refine ⟨counted_cancelHold consistent.counted number, ?_⟩
    intro slot
    have before := consistent.agree slot
    simp only [answer, holding_cancelHold, phase_cancelHold]
    by_cases same : number.toNat = slot.val
    · by_cases held : tracker.holding.get slot = true
      · simp [same, held]
      · simpa [same, held] using before
    · simpa [same] using before

def after (history : List Call) : GestureTracker := (start.answerAll history).1

private theorem after_concat (history : List Call) (call : Call) :
    after (history ++ [call]) = ((after history).answer call).1 :=
  congrArg Prod.fst (answerAll_concat start history call)

private theorem consistent_after (history : List Call) : (after history).Consistent := by
  induction history using List.reverseRecOn with
  | nil => exact consistent_start
  | append_singleton history call ih =>
    rw [after_concat]
    exact consistent_answer ih call

private theorem heldCount_le {tracker : GestureTracker} (counted : tracker.Counted) :
    tracker.heldCount ≤ slotCount := by
  unfold Counted at counted
  rw [counted]
  exact Vector.count_le_size

/-- One hold less is counted when one is dropped: the count does not fall below zero. -/
theorem heldCount_setHolding_false {tracker : GestureTracker} (counted : tracker.Counted)
    (slot : Slot) : (tracker.setHolding slot false).heldCount + (tracker.holding.get slot).toNat =
      tracker.heldCount := by
  have pending := holdsPending_iff counted
  unfold setHolding
  cases held : tracker.holding.get slot with
  | false => simp
  | true =>
    have positive : 0 < tracker.heldCount := of_decide_eq_true (pending.mpr ⟨slot, held⟩)
    simp only [Bool.true_eq_false, if_false, Bool.false_eq_true, Bool.toNat_true]
    omega

private theorem answer_elsewhere (tracker : GestureTracker) {call : Call} {slot : Slot}
    (elsewhere : call.slot ≠ slot.byte) :
    (tracker.answer call).1.phases.get slot = tracker.phases.get slot ∧
      (tracker.answer call).1.holding.get slot = tracker.holding.get slot := by
  have apart : call.slot.toNat ≠ slot.val := fun same => elsewhere (Slot.eq_byte_iff.mpr same)
  refine ⟨?_, ?_⟩
  · cases call with
    | apply number made => exact (phase_apply tracker number made slot).trans (if_neg apart)
    | cancelHold number =>
      exact (phase_cancelHold tracker number slot).trans (if_neg fun both => apart both.1)
  · rw [holding_answer, if_neg fun both => elsewhere both.1]

private theorem answer_of_beyond (tracker : GestureTracker) {call : Call} (beyond : 8 ≤ call.slot) :
    (tracker.answer call).1 = tracker := by
  obtain ⟨-, -, inside⟩ | ⟨missing, beyond⟩ := Slot.byte_or_beyond call.slot
  · exact absurd inside (UInt8.not_lt.mpr beyond)
  · rw [answer_beyond tracker false missing beyond]

/-- Whatever a tracker is told: it counts the slots whose flag is set, at most eight, and takes off
no more than it has counted; it has holds pending exactly if a flag is set, and a flag is set
exactly while its slot is held down. A call concerns its own slot only, and none if there is no such
slot. -/
theorem count_flags_and_phases_agree :
    (∀ history,
      (after history).heldCount = (after history).holding.count true ∧
      (after history).heldCount ≤ 8 ∧
      (∀ slot, ((after history).setHolding slot false).heldCount +
        ((after history).holding.get slot).toNat = (after history).heldCount) ∧
      ((after history).holdsPending = true ↔
        ∃ slot : Slot, (after history).holding.get slot = true) ∧
      ∀ slot : Slot,
        (after history).holding.get slot = true ↔ (after history).phases.get slot = .heldDown) ∧
    (∀ (tracker : GestureTracker) (call : Call) (slot : Slot), call.slot ≠ slot.byte →
      (tracker.answer call).1.phases.get slot = tracker.phases.get slot ∧
      (tracker.answer call).1.holding.get slot = tracker.holding.get slot) ∧
    ∀ (tracker : GestureTracker) (call : Call), 8 ≤ call.slot →
      (tracker.answer call).1 = tracker := by
  refine ⟨?_, fun tracker _ _ => tracker.answer_elsewhere,
    fun tracker _ => tracker.answer_of_beyond⟩
  intro history
  have consistent := consistent_after history
  exact ⟨consistent.counted, heldCount_le consistent.counted,
    heldCount_setHolding_false consistent.counted, holdsPending_iff consistent.counted,
    consistent.agree⟩

/-- Two slots are held, one of them twice; dropping one hold leaves the other, and a ninth slot has
none. -/
theorem two_holds_counted_once_each :
    (after [.apply 0 .hold, .apply 7 .hold, .apply 0 .hold]).heldCount = 2 ∧
      (Call.cancelHold 7).slot ≠ Slot.byte ⟨0, by decide⟩ ∧
      ((after [.apply 0 .hold, .apply 7 .hold, .apply 0 .hold]).answer
        (.cancelHold 7)).1.phases.get ⟨0, by decide⟩ = .heldDown ∧
      8 ≤ (Call.apply 8 .hold).slot ∧
      (start.answer (.apply 8 .hold)).1 = start := by
  obtain ⟨agreement, elsewhere, beyond⟩ := count_flags_and_phases_agree
  obtain ⟨counted, -⟩ := agreement [.apply 0 .hold, .apply 7 .hold, .apply 0 .hold]
  have other : (Call.cancelHold 7).slot ≠ Slot.byte ⟨0, by decide⟩ := by decide
  have ninth : 8 ≤ (Call.apply 8 .hold).slot := by decide
  refine ⟨counted.trans (by decide), other, ?_, ninth, beyond start _ ninth⟩
  exact (elsewhere _ _ _ other).1.trans (by decide)

end ButtonGateway.GestureTracker
