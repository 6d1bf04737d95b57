import ButtonGateway.Address

namespace ButtonGateway

def slotCount : Nat := 8

abbrev Slot := Fin slotCount

abbrev PerSlot (α : Type) := Vector α slotCount

def Slot.ofNat? (number : Nat) : Option Slot :=
  if inside : number < slotCount then some ⟨number, inside⟩ else none

def Slot.byte (slot : Slot) : UInt8 := UInt8.ofNat slot.val

def Slot.all : List Slot := List.finRange slotCount

/-- A button of the configuration. Without an address it is known by name only. -/
structure Button where
  slot : UInt8
  name : String
  address : Option Address
  deriving DecidableEq, Repr

abbrev SlotTable := PerSlot (Option Button)

namespace SlotTable

def empty : SlotTable := Vector.replicate slotCount none

/-- Puts a button into its slot. A button whose slot does not exist is left out. -/
def insert (table : SlotTable) (button : Button) : SlotTable :=
  match Slot.ofNat? button.slot.toNat with
  | some place => table.set place (some button) place.isLt
  | none => table

/-- The table of a list of buttons. Of two buttons in one slot the later one stays. -/
def ofButtons (buttons : List Button) : SlotTable := buttons.foldl insert empty

def names (table : SlotTable) : PerSlot (Option String) := table.map (·.map Button.name)

/-- The addresses of the buttons that have one. -/
def addresses (table : SlotTable) : PerSlot (Option Address) :=
  table.map (·.bind Button.address)

end SlotTable

end ButtonGateway
