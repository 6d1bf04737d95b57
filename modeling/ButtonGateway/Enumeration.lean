/-!
Vocabularies of named values with one-byte codes. A value's code is its place in the vocabulary.
-/
namespace ButtonGateway

/-- Why bytes or texts of the daemon's language are refused. -/
inductive Fault where
  /-- A body is too long for one frame. -/
  | frameTooLarge (length : Nat)
  /-- A field needs more bytes than remain. -/
  | truncated (needed remaining : Nat)
  /-- A byte is no code of the vocabulary. -/
  | invalidCode (vocabulary : String) (code : UInt8)
  | invalidAddress (text : String)
  /-- A packet has not even an opcode. -/
  | emptyPacket
  | unknownCommand (opcode : UInt8)
  /-- The byte stream itself failed. -/
  | stream (reason : String)
  deriving DecidableEq, Repr

def Fault.message : Fault → String
  | .frameTooLarge length =>
    s!"Command body of {length} bytes exceeds the 4094 byte frame limit"
  | .truncated needed remaining =>
    s!"Packet truncated: needed {needed} more bytes, {remaining} remaining"
  | .invalidCode vocabulary code => s!"Invalid value {code} for {vocabulary}"
  | .invalidAddress text =>
    s!"Invalid bluetooth address '{text}', expected xx:xx:xx:xx:xx:xx"
  | .emptyPacket => "Empty packet without opcode"
  | .unknownCommand opcode => s!"Unknown command opcode {opcode}"
  | .stream reason => s!"Socket error: {reason}"

/-- A finite vocabulary listed in the order of its codes. -/
class Enumeration (α : Type) where
  /-- What a refusal calls the vocabulary. -/
  title : String
  values : List α
  name : α → String
  complete : ∀ value, value ∈ values
  distinct : values.Nodup
  small : values.length ≤ 256

namespace Enumeration

variable {α : Type} [DecidableEq α] [Enumeration α]

def code (value : α) : UInt8 :=
  UInt8.ofNat (values.idxOf value)

def ofCode? (code : UInt8) : Option α :=
  values[code.toNat]?

/-- The value that a byte stands for, or the refusal that names the vocabulary. -/
def ofCode (byte : UInt8) : Except Fault α :=
  match (ofCode? byte : Option α) with
  | some value => .ok value
  | none => .error (.invalidCode (title α) byte)

def ofName? (text : String) : Option α :=
  values.find? (fun value => name value == text)

theorem toNat_code (value : α) : (code value).toNat = values.idxOf value := by
  have place := List.idxOf_lt_length_of_mem (complete value)
  have room := (small : (values : List α).length ≤ 256)
  rw [code, UInt8.toNat_ofNat']
  omega

@[simp] theorem ofCode?_code (value : α) : ofCode? (code value) = some value := by
  have place := List.idxOf_lt_length_of_mem (complete value)
  rw [ofCode?, toNat_code, List.getElem?_eq_getElem place, List.getElem_idxOf place]

theorem ofCode?_eq_some_iff {byte : UInt8} {value : α} :
    ofCode? byte = some value ↔ code value = byte := by
  constructor
  · intro found
    obtain ⟨inside, same⟩ := List.getElem?_eq_some_iff.mp found
    have index : values.idxOf value = byte.toNat := by
      rw [← same]
      exact distinct.idxOf_getElem _ inside
    rw [code, index, UInt8.ofNat_toNat]
  · rintro rfl
    exact ofCode?_code value

omit [DecidableEq α] in
theorem ofCode?_eq_none_iff {byte : UInt8} :
    (ofCode? byte : Option α) = none ↔ (values : List α).length ≤ byte.toNat := by
  simp [ofCode?]

end Enumeration

end ButtonGateway
