import ButtonGateway.Button

namespace ButtonGateway

namespace Slot

theorem ofNat?_eq_some_iff {number : Nat} {slot : Slot} :
    ofNat? number = some slot ↔ number = slot.val := by
  unfold ofNat?
  constructor
  · intro found
    split at found
    · cases found
      rfl
    · cases found
  · intro same
    subst same
    rw [dif_pos slot.isLt]

/-- What is no slot is none of the slots. -/
theorem ne_of_ofNat?_eq_none {number : Nat} (missing : ofNat? number = none) (slot : Slot) :
    ¬ number = slot.val := by
  intro same
  rw [ofNat?_eq_some_iff.mpr same] at missing
  cases missing

@[simp] theorem toNat_byte (slot : Slot) : slot.byte.toNat = slot.val := by
  have inside : slot.val < 8 := slot.isLt
  rw [byte, UInt8.toNat_ofNat']
  omega

@[simp] theorem ofNat?_byte (slot : Slot) : ofNat? slot.byte.toNat = some slot :=
  ofNat?_eq_some_iff.mpr (toNat_byte slot)

theorem eq_byte_iff {number : UInt8} {slot : Slot} :
    number = slot.byte ↔ number.toNat = slot.val := by
  rw [← UInt8.toNat_inj, toNat_byte]

/-- What is a slot's number, and what is none. -/
theorem byte_or_beyond (number : UInt8) :
    (∃ slot : Slot, number = slot.byte ∧ number < 8) ∨
      ofNat? number.toNat = none ∧ ¬ number < 8 := by
  by_cases inside : number.toNat < slotCount
  · exact .inl ⟨⟨number.toNat, inside⟩, eq_byte_iff.mpr rfl, UInt8.lt_iff_toNat_lt.mpr inside⟩
  · exact .inr ⟨dif_neg inside, fun less => inside (UInt8.lt_iff_toNat_lt.mp less)⟩

end Slot

theorem PerSlot.get_set {α : Type} (values : PerSlot α) (slot other : Slot) (value : α) :
    (values.set slot value slot.isLt).get other =
      if slot.val = other.val then value else values.get other :=
  Vector.getElem_set slot.isLt other.isLt

end ButtonGateway
