import Mathlib.Data.List.Induction
import Mathlib.Data.List.Nodup
import ButtonGateway.Proofs.Slot
import ButtonGateway.Settings.Validation

namespace ButtonGateway

/-- One more value keeps values distinct if it is new. -/
theorem nodup_map_concat_iff {α β : Type} (field : α → β) (before : List α) (last : α) :
    ((before ++ [last]).map field).Nodup ↔
      (before.map field).Nodup ∧ field last ∉ before.map field := by
  rw [List.map_append, List.map_singleton, List.nodup_append]
  constructor
  · rintro ⟨distinct, _, apart⟩
    exact ⟨distinct, fun member => apart _ member _ (List.mem_singleton_self _) rfl⟩
  · rintro ⟨distinct, fresh⟩
    refine ⟨distinct, by simp, ?_⟩
    intro value member other same equal
    rw [List.mem_singleton] at same
    exact fresh (same ▸ equal ▸ member)

namespace Settings

/-- Each button has a slot that exists and a name that can stand in a topic, and no two buttons
share one or the other. -/
structure Distinguished (buttons : List Button) : Prop where
  inside : ∀ button ∈ buttons, button.slot.toNat < slotCount
  slots : (buttons.map Button.slot).Nodup
  segments : ∀ button ∈ buttons, isSegment button.name.toList = true
  names : (buttons.map Button.name).Nodup

theorem distinguished_nil : Distinguished [] := by
  constructor <;> simp

theorem Distinguished.left {front back : List Button} (both : Distinguished (front ++ back)) :
    Distinguished front := by
  constructor
  · intro button member
    exact both.inside button (List.mem_append_left back member)
  · have slots := both.slots
    rw [List.map_append] at slots
    exact (List.nodup_append.mp slots).1
  · intro button member
    exact both.segments button (List.mem_append_left back member)
  · have names := both.names
    rw [List.map_append] at names
    exact (List.nodup_append.mp names).1

private theorem buttonViolation?_eq_none_iff {before : List Button} {button : Button} :
    buttonViolation? before button = none ↔
      button.slot.toNat < slotCount ∧ button.slot ∉ before.map Button.slot ∧
        isSegment button.name.toList = true ∧ button.name ∉ before.map Button.name := by
  unfold buttonViolation?
  constructor
  · intro nothing
    split at nothing
    · cases nothing
    · rename_i inside
      split at nothing
      · cases nothing
      · rename_i slot
        split at nothing
        · cases nothing
        · rename_i segment
          split at nothing
          · cases nothing
          · rename_i name
            exact ⟨Nat.lt_of_not_le inside, slot, by simpa using segment, name⟩
  · rintro ⟨inside, slot, segment, name⟩
    rw [if_neg (Nat.not_le.mpr inside), if_neg slot, if_neg (by simp [segment]), if_neg name]

private theorem distinguished_concat_iff {before : List Button}
    (distinguished : Distinguished before)
    (button : Button) :
    Distinguished (before ++ [button]) ↔ buttonViolation? before button = none := by
  rw [buttonViolation?_eq_none_iff]
  constructor
  · intro both
    exact ⟨both.inside button (by simp), ((nodup_map_concat_iff _ _ _).mp both.slots).2,
      both.segments button (by simp), ((nodup_map_concat_iff _ _ _).mp both.names).2⟩
  · rintro ⟨inside, slot, segment, name⟩
    constructor
    · intro other member
      rcases List.mem_append.mp member with earlier | last
      · exact distinguished.inside other earlier
      · rwa [List.mem_singleton.mp last]
    · exact (nodup_map_concat_iff _ _ _).mpr ⟨distinguished.slots, slot⟩
    · intro other member
      rcases List.mem_append.mp member with earlier | last
      · exact distinguished.segments other earlier
      · rwa [List.mem_singleton.mp last]
    · exact (nodup_map_concat_iff _ _ _).mpr ⟨distinguished.names, name⟩

/-- The check of the buttons finds nothing exactly if they can be told apart. -/
theorem buttonsViolation?_eq_none_iff {before : List Button} (distinguished : Distinguished before)
    (buttons : List Button) :
    buttonsViolation? before buttons = none ↔ Distinguished (before ++ buttons) := by
  -- Each button in turn joins those before it once it can be told from them.
  induction buttons generalizing before with
  | nil => simpa [buttonsViolation?] using distinguished
  | cons button rest ih =>
    have reordered : before ++ button :: rest = before ++ [button] ++ rest := by simp
    unfold buttonsViolation?
    rw [reordered]
    cases found : buttonViolation? before button with
    | none => exact ih ((distinguished_concat_iff distinguished button).mpr found)
    | some violation =>
      constructor
      · intro none
        cases none
      · intro both
        have none := (distinguished_concat_iff distinguished button).mp both.left
        cases found.symm.trans none

theorem violation?_of_validate {settings : Settings} (valid : settings.validate = .ok ()) :
    settings.violation? = none := by
  unfold validate at valid
  split at valid
  · cases valid
  · assumption

theorem distinguished_of_validate {settings : Settings} (valid : settings.validate = .ok ()) :
    Distinguished settings.buttons := by
  have nothing := violation?_of_validate valid
  unfold violation? at nothing
  split at nothing
  · cases nothing
  · split at nothing
    · cases nothing
    · rename_i none
      exact (buttonsViolation?_eq_none_iff distinguished_nil settings.buttons).mp none

end Settings

namespace SlotTable

private theorem get_empty (slot : Slot) : empty.get slot = none :=
  Vector.getElem_replicate slot.isLt

private theorem get_insert (table : SlotTable) (button : Button) (slot : Slot) :
    (table.insert button).get slot =
      if button.slot.toNat = slot.val then some button else table.get slot := by
  unfold insert
  split
  · rename_i place found
    rw [PerSlot.get_set, Slot.ofNat?_eq_some_iff.mp found]
  · rename_i missing
    rw [if_neg (Slot.ne_of_ofNat?_eq_none missing slot)]

/-- The table of buttons in slots of their own holds each of them in its place and nothing else. -/
theorem get_ofButtons_eq_some_iff {buttons : List Button} (slots : (buttons.map Button.slot).Nodup)
    {slot : Slot} {button : Button} :
    (ofButtons buttons).get slot = some button ↔
      button ∈ buttons ∧ button.slot.toNat = slot.val := by
  induction buttons using List.reverseRecOn with
  | nil => simp [ofButtons, get_empty]
  | append_singleton buttons last ih =>
    obtain ⟨slots, fresh⟩ := (nodup_map_concat_iff _ _ _).mp slots
    have filled : ofButtons (buttons ++ [last]) = (ofButtons buttons).insert last := by
      simp [ofButtons]
    rw [filled, get_insert, List.mem_append, List.mem_singleton]
    by_cases here : last.slot.toNat = slot.val
    · rw [if_pos here, Option.some_inj]
      constructor
      · rintro rfl
        exact ⟨.inr rfl, here⟩
      · rintro ⟨earlier | same, place⟩
        · have shared : button.slot = last.slot := UInt8.toNat_inj.mp (place.trans here.symm)
          exact absurd (List.mem_map.mpr ⟨button, earlier, shared⟩) fresh
        · exact same.symm
    · rw [if_neg here, ih slots]
      constructor
      · rintro ⟨earlier, place⟩
        exact ⟨.inl earlier, place⟩
      · rintro ⟨earlier | rfl, place⟩
        · exact ⟨earlier, place⟩
        · exact absurd place here

/-- The buttons of a table in ascending order of their slots. -/
def buttons (table : SlotTable) : List Button := Slot.all.filterMap fun slot => table.get slot

/-- A table of buttons in slots of their own only sorts them. -/
theorem buttons_ofButtons {buttons : List Button} (slots : (buttons.map Button.slot).Nodup)
    (inside : ∀ button ∈ buttons, button.slot.toNat < slotCount) :
    (SlotTable.buttons (ofButtons buttons)).Perm buttons ∧
      (SlotTable.buttons (ofButtons buttons)).Pairwise
        fun first second => first.slot.toNat < second.slot.toNat := by
  have sorted : (SlotTable.buttons (ofButtons buttons)).Pairwise
      fun first second => first.slot.toNat < second.slot.toNat := by
    refine List.Pairwise.filterMap _ ?_ (List.pairwise_lt_finRange slotCount)
    intro slot later before first held second heldToo
    rw [((get_ofButtons_eq_some_iff slots).mp held).2,
      ((get_ofButtons_eq_some_iff slots).mp heldToo).2]
    exact before
  refine ⟨?_, sorted⟩
  have distinct : (SlotTable.buttons (ofButtons buttons)).Nodup :=
    sorted.imp fun before same => Nat.ne_of_lt before (congrArg _ (congrArg _ same))
  rw [List.perm_ext_iff_of_nodup distinct (List.Nodup.of_map _ slots)]
  intro button
  simp only [SlotTable.buttons, List.mem_filterMap, get_ofButtons_eq_some_iff slots]
  constructor
  · rintro ⟨slot, _, member, _⟩
    exact member
  · intro member
    exact ⟨⟨button.slot.toNat, inside button member⟩, List.mem_finRange _, member, rfl⟩

end SlotTable

end ButtonGateway
