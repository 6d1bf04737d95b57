import ButtonGateway.Proofs.Text.Utf8
import ButtonGateway.Wire.Field
import Mathlib.Algebra.Ring.Nat
/-!
Fields and the bytes that they are read from. A field is read exactly if bytes at the front spell a
value of it. What is written spells what is left of the value, and bytes that spell a value tidily
are the ones that are written for it.
-/
namespace ButtonGateway

theorem Enumeration.ofCode_eq_ok_iff {α : Type} [DecidableEq α] [Enumeration α] {byte : UInt8}
    {value : α} : ofCode byte = .ok value ↔ code value = byte := by
  rw [← ofCode?_eq_some_iff, ofCode]
  cases (ofCode? byte : Option α) with
  | none => simp
  | some found => simp

namespace Wire

theorem Reading.map_eq_ok_iff {α β : Type} {f : α → β} {reading : Reading α} {value : β}
    {rest : Bytes} :
    reading.map f = (.ok value, rest) ↔ ∃ original, reading = (.ok original, rest) ∧
      f original = value := by
  obtain ⟨outcome, left⟩ := reading
  cases outcome with
  | error fault => simp [Reading.map, Except.map]
  | ok original =>
    simp only [Reading.map, Except.map, Prod.mk.injEq, Except.ok.injEq]
    constructor
    · rintro ⟨rfl, rfl⟩
      exact ⟨original, ⟨rfl, rfl⟩, rfl⟩
    · rintro ⟨_, ⟨rfl, rfl⟩, rfl⟩
      exact ⟨rfl, rfl⟩

theorem Reading.andThen_eq_ok_iff {α β : Type} {reading : Reading α}
    {next : α → Bytes → Reading β} {value : β} {rest : Bytes} :
    reading.andThen next = (.ok value, rest) ↔ ∃ first middle, reading = (.ok first, middle) ∧
      next first middle = (.ok value, rest) := by
  obtain ⟨outcome, left⟩ := reading
  cases outcome with
  | error fault => simp [Reading.andThen]
  | ok first =>
    simp only [Reading.andThen, Prod.mk.injEq, Except.ok.injEq]
    constructor
    · intro further
      exact ⟨first, left, ⟨rfl, rfl⟩, further⟩
    · rintro ⟨_, _, ⟨rfl, rfl⟩, further⟩
      exact further

theorem take_eq_ok_iff {count : Nat} {bytes rest : Bytes} {block : Octets count} :
    take count bytes = (.ok block, rest) ↔ bytes = block.val ++ rest := by
  unfold take
  constructor
  · intro taken
    split at taken
    · obtain ⟨same, rfl⟩ := Prod.mk.inj taken
      rw [← Except.ok.inj same]
      exact (List.take_append_drop count bytes).symm
    · cases (Prod.mk.inj taken).1
  · rintro rfl
    have enough : count ≤ (block.val ++ rest).length := by simp [block.property]
    rw [dif_pos enough]
    have front : Octets.ofTake count (block.val ++ rest) enough = block :=
      Subtype.ext (List.take_left' block.property)
    rw [front, List.drop_left' block.property]

/-- So many bytes keep a number up to a multiple of a power of 256. -/
theorem ofLittleEndian_toLittleEndian (count number : Nat) :
    ofLittleEndian (toLittleEndian count number) = number % 256 ^ count := by
  induction count generalizing number with
  | zero => simp [toLittleEndian, ofLittleEndian, Nat.mod_one]
  | succ count ih =>
    have digit : (UInt8.ofNat (number % 256)).toNat = number % 256 := by
      simp [UInt8.toNat_ofNat']
    rw [toLittleEndian, ofLittleEndian, ih, digit, Nat.pow_succ, Nat.mul_comm (256 ^ count) 256,
      Nat.mod_mul]

theorem ofLittleEndian_lt (bytes : Bytes) : ofLittleEndian bytes < 256 ^ bytes.length := by
  induction bytes with
  | nil => simp [ofLittleEndian]
  | cons byte rest ih =>
    have bound := byte.toNat_lt
    simp only [ofLittleEndian, List.length_cons, Nat.pow_succ]
    omega

theorem takeNumber_eq_ok_iff {count number : Nat} {bytes rest : Bytes} :
    takeNumber count bytes = (.ok number, rest) ↔
      number < 256 ^ count ∧ bytes = toLittleEndian count number ++ rest := by
  rw [takeNumber, Reading.map_eq_ok_iff]
  constructor
  · rintro ⟨block, taken, rfl⟩
    have digits := toLittleEndian_ofLittleEndian block.val
    have bound := ofLittleEndian_lt block.val
    rw [block.property] at digits bound
    exact ⟨bound, digits.symm ▸ take_eq_ok_iff.mp taken⟩
  · rintro ⟨bound, rfl⟩
    refine ⟨⟨_, length_toLittleEndian count number⟩, take_eq_ok_iff.mpr rfl, ?_⟩
    rw [ofLittleEndian_toLittleEndian]
    exact Nat.mod_eq_of_lt bound

theorem takeByte_eq_ok_iff {number : Nat} {bytes rest : Bytes} :
    takeNumber 1 bytes = (.ok number, rest) ↔
      ∃ byte : UInt8, byte.toNat = number ∧ bytes = byte :: rest := by
  rw [takeNumber_eq_ok_iff]
  constructor
  · rintro ⟨bound, rfl⟩
    refine ⟨UInt8.ofNat (number % 256), ?_, rfl⟩
    rw [UInt8.toNat_ofNat']
    omega
  · rintro ⟨byte, rfl, rfl⟩
    have bound := byte.toNat_lt
    refine ⟨bound, ?_⟩
    simp [toLittleEndian]

private theorem takeAddress_eq_ok_iff {bytes rest : Bytes} {address : Address} :
    takeAddress bytes = (.ok address, rest) ↔ bytes = address.octets.val ++ rest := by
  rw [takeAddress, Reading.map_eq_ok_iff]
  constructor
  · rintro ⟨block, taken, rfl⟩
    exact take_eq_ok_iff.mp taken
  · intro spelled
    exact ⟨address.octets, take_eq_ok_iff.mpr spelled, rfl⟩

private theorem takeAddresses_eq_ok_iff {count : Nat} {bytes rest : Bytes} {listed : List Address} :
    takeAddresses count bytes = (.ok listed, rest) ↔
      listed.length = count ∧ bytes = listed.flatMap (·.octets.val) ++ rest := by
  induction count generalizing bytes listed with
  | zero =>
    rw [takeAddresses, List.length_eq_zero_iff, Prod.mk.injEq, Except.ok.injEq]
    constructor
    · rintro ⟨rfl, rfl⟩
      exact ⟨rfl, rfl⟩
    · rintro ⟨rfl, rfl⟩
      exact ⟨rfl, rfl⟩
  | succ count ih =>
    simp only [takeAddresses, Reading.andThen_eq_ok_iff, Reading.map_eq_ok_iff,
      takeAddress_eq_ok_iff, ih]
    constructor
    · rintro ⟨address, _, rfl, others, ⟨rfl, rfl⟩, rfl⟩
      exact ⟨rfl, by rw [List.flatMap_cons, List.append_assoc]⟩
    · rintro ⟨length, rfl⟩
      obtain ⟨address, others, rfl⟩ := List.exists_cons_of_length_eq_add_one length
      refine ⟨address, _, ?_, others, ⟨Nat.succ.inj length, rfl⟩, rfl⟩
      rw [List.flatMap_cons, List.append_assoc]

section Number

variable {α : Type} {count : Nat} {ofNumber : Nat → α} (number : α → Nat)

/-- A field that holds a number is read from the bytes of that number and from no others. -/
theorem map_takeNumber_eq_ok_iff (bounded : ∀ value, number value < 256 ^ count)
    (ofNumber_number : ∀ value, ofNumber (number value) = value)
    (number_ofNumber : ∀ whole, whole < 256 ^ count → number (ofNumber whole) = whole)
    {bytes rest : Bytes} {value : α} :
    (takeNumber count bytes).map ofNumber = (.ok value, rest) ↔
      bytes = toLittleEndian count (number value) ++ rest := by
  simp only [Reading.map_eq_ok_iff, takeNumber_eq_ok_iff]
  constructor
  · rintro ⟨whole, ⟨bound, rfl⟩, rfl⟩
    rw [number_ofNumber whole bound]
  · rintro rfl
    exact ⟨number value, ⟨bounded value, rfl⟩, ofNumber_number value⟩

end Number

namespace Field

variable {α : Type}

/-- Some bytes are a field's bytes and hold a value. -/
def Spells : Field α → α → Bytes → Prop
  | .flag, value, bytes => ∃ byte, bytes = [byte] ∧ (byte != 0) = value
  | .text, value, bytes => ∃ length block, bytes = length :: block ∧ block.length = textWidth ∧
      Text.decode (block.take (min length.toNat textWidth)) = value
  | .addresses, value, bytes => value.length ≤ maxListed ∧
      bytes = toLittleEndian 2 value.length ++ value.flatMap (·.octets.val)
  | field, value, bytes => bytes = field.write value

theorem read_eq_ok_iff (field : Field α) {bytes rest : Bytes} {value : α} :
    field.read bytes = (.ok value, rest) ↔
      ∃ front, field.Spells value front ∧ bytes = front ++ rest := by
  cases field with
  | u8 =>
    simp only [read, Spells, write, exists_eq_left]
    exact map_takeNumber_eq_ok_iff UInt8.toNat UInt8.toNat_lt (fun _ => UInt8.ofNat_toNat)
      fun _ bound => UInt8.toNat_ofNat_of_lt' bound
  | i8 =>
    simp only [read, Spells, write, exists_eq_left]
    refine map_takeNumber_eq_ok_iff (fun value : Int8 => value.toUInt8.toNat)
      (fun value => value.toUInt8.toNat_lt) ?_ ?_
    · intro value
      rw [UInt8.ofNat_toNat, Int8.toInt8_toUInt8]
    · intro whole bound
      rw [UInt8.toUInt8_toInt8, UInt8.toNat_ofNat_of_lt' bound]
  | u16 =>
    simp only [read, Spells, write, exists_eq_left]
    exact map_takeNumber_eq_ok_iff UInt16.toNat UInt16.toNat_lt (fun _ => UInt16.ofNat_toNat)
      fun _ bound => UInt16.toNat_ofNat_of_lt' bound
  | i16 =>
    simp only [read, Spells, write, exists_eq_left]
    refine map_takeNumber_eq_ok_iff (fun value : Int16 => value.toUInt16.toNat)
      (fun value => value.toUInt16.toNat_lt) ?_ ?_
    · intro value
      rw [UInt16.ofNat_toNat, Int16.toInt16_toUInt16]
    · intro whole bound
      rw [UInt16.toUInt16_toInt16, UInt16.toNat_ofNat_of_lt' bound]
  | u32 =>
    simp only [read, Spells, write, exists_eq_left]
    exact map_takeNumber_eq_ok_iff UInt32.toNat UInt32.toNat_lt (fun _ => UInt32.ofNat_toNat)
      fun _ bound => UInt32.toNat_ofNat_of_lt' bound
  | i64 =>
    simp only [read, Spells, write, exists_eq_left]
    refine map_takeNumber_eq_ok_iff (fun value : Int64 => value.toUInt64.toNat)
      (fun value => value.toUInt64.toNat_lt) ?_ ?_
    · intro value
      rw [UInt64.ofNat_toNat, Int64.toInt64_toUInt64]
    · intro whole bound
      rw [UInt64.toUInt64_toInt64, UInt64.toNat_ofNat_of_lt' bound]
  | flag =>
    have zero (byte : UInt8) : (byte.toNat != 0) = (byte != 0) := by
      rw [Bool.eq_iff_iff, bne_iff_ne, bne_iff_ne, ne_eq, ne_eq, ← UInt8.toNat_inj]
      rfl
    simp only [read, Spells, Reading.map_eq_ok_iff, takeByte_eq_ok_iff]
    constructor
    · rintro ⟨_, ⟨byte, rfl, rfl⟩, rfl⟩
      exact ⟨[byte], ⟨byte, rfl, (zero byte).symm⟩, rfl⟩
    · rintro ⟨_, ⟨byte, rfl, rfl⟩, rfl⟩
      exact ⟨byte.toNat, ⟨byte, rfl, rfl⟩, zero byte⟩
  | code =>
    simp only [read, Spells, write, Reading.andThen_eq_ok_iff, takeByte_eq_ok_iff, exists_eq_left]
    constructor
    · rintro ⟨_, _, ⟨byte, rfl, rfl⟩, known⟩
      obtain ⟨named, rfl⟩ := Prod.mk.inj known
      rw [UInt8.ofNat_toNat, Enumeration.ofCode_eq_ok_iff] at named
      rw [named, List.singleton_append]
    · rintro rfl
      refine ⟨_, rest, ⟨Enumeration.code value, rfl, rfl⟩, ?_⟩
      rw [UInt8.ofNat_toNat, Enumeration.ofCode_eq_ok_iff.mpr rfl]
  | octets count =>
    simp only [read, Spells, write, exists_eq_left]
    exact take_eq_ok_iff
  | address =>
    simp only [read, Spells, write, exists_eq_left]
    exact takeAddress_eq_ok_iff
  | text =>
    simp only [read, Spells, Reading.andThen_eq_ok_iff, Reading.map_eq_ok_iff, takeByte_eq_ok_iff,
      take_eq_ok_iff]
    constructor
    · rintro ⟨_, _, ⟨length, rfl, rfl⟩, block, rfl, rfl⟩
      exact ⟨length :: block.val, ⟨length, block.val, rfl, block.property, rfl⟩, rfl⟩
    · rintro ⟨_, ⟨length, block, rfl, width, rfl⟩, rfl⟩
      exact ⟨length.toNat, block ++ rest, ⟨length, rfl, rfl⟩, ⟨block, width⟩, rfl, rfl⟩
  | addresses =>
    simp only [read, Spells, Reading.andThen_eq_ok_iff, takeNumber_eq_ok_iff,
      takeAddresses_eq_ok_iff]
    constructor
    · rintro ⟨_, _, ⟨bound, rfl⟩, rfl, rfl⟩
      refine ⟨_, ⟨Nat.le_of_lt_succ bound, rfl⟩, ?_⟩
      rw [List.append_assoc]
    · rintro ⟨_, ⟨bound, rfl⟩, rfl⟩
      refine ⟨value.length, _, ⟨Nat.lt_succ_of_le bound, ?_⟩, rfl, rfl⟩
      rw [List.append_assoc]

theorem length_cut_le (value : String) :
    (Text.utf8 (Text.clip textWidth value)).length ≤ textWidth :=
  (Text.longestBeginning_clip textWidth value).fits

/-- The length byte of a cut text counts its bytes. -/
theorem toNat_length_cut (value : String) :
    (UInt8.ofNat (Text.utf8 (Text.clip textWidth value)).length).toNat =
      (Text.utf8 (Text.clip textWidth value)).length :=
  UInt8.toNat_ofNat_of_lt' (Nat.lt_of_le_of_lt (length_cut_le value) (by decide))

/-- What is written spells what is left of the value. -/
theorem spells_write (field : Field α) (value : α) :
    field.Spells (field.canonical value) (field.write value) := by
  cases field with
  | flag => cases value <;> exact ⟨_, rfl, rfl⟩
  | text =>
    have fits := length_cut_le value
    have length := toNat_length_cut value
    have spelled := Text.decode_utf8 (Text.clip textWidth value)
    simp only [Spells, write, canonical]
    generalize Text.utf8 (Text.clip textWidth value) = bytes at fits length spelled
    refine ⟨_, bytes ++ List.replicate (textWidth - bytes.length) 0, rfl, ?_, ?_⟩
    · rw [List.length_append, List.length_replicate]
      omega
    · rw [length, Nat.min_eq_left fits, List.take_left' rfl]
      exact spelled
  | addresses => exact ⟨List.length_take_le maxListed value, rfl⟩
  | _ => rfl

/-- Bytes of a field that no other bytes could replace: a flag is zero or one, and a text's length
is not too long for the field, counts bytes that spell a text, and has zeros behind those. -/
def Tidy : Field α → Bytes → Prop
  | .flag, bytes => ∀ byte ∈ bytes, byte = 0 ∨ byte = 1
  | .text, bytes => ∃ length block, bytes = length :: block ∧ length.toNat ≤ textWidth ∧
      (block.take length.toNat).toByteArray.IsValidUTF8 ∧
      ∀ byte ∈ block.drop length.toNat, byte = 0
  | _, _ => True

/-- Bytes that spell a value tidily are those that are written for it. -/
theorem eq_write_of_spells {field : Field α} {value : α} {bytes : Bytes}
    (spells : field.Spells value bytes) (tidy : field.Tidy bytes) : bytes = field.write value := by
  cases field with
  | flag =>
    obtain ⟨byte, rfl, rfl⟩ := spells
    rcases tidy byte List.mem_cons_self with rfl | rfl <;> rfl
  | text =>
    obtain ⟨length, block, rfl, width, rfl⟩ := spells
    obtain ⟨_, _, same, bound, valid, zeros⟩ := tidy
    obtain ⟨rfl, rfl⟩ := List.cons.inj same
    have spelled := Text.utf8_decode_of_valid valid
    have count : (block.take length.toNat).length = length.toNat :=
      List.length_take_of_le (width.symm ▸ bound)
    have whole : Text.clip textWidth (Text.decode (block.take length.toNat)) =
        Text.decode (block.take length.toNat) := by
      apply Text.clip_eq_self
      rw [spelled, count]
      exact bound
    have padding : block.drop length.toNat = List.replicate (textWidth - length.toNat) 0 := by
      rw [List.eq_replicate_iff, List.length_drop, width]
      exact ⟨rfl, zeros⟩
    rw [write, Nat.min_eq_left bound, whole, spelled, count, UInt8.ofNat_toNat, ← padding,
      List.cons_append, List.take_append_drop]
  | addresses =>
    obtain ⟨short, rfl⟩ := spells
    rw [write, List.take_of_length_le short]
  | _ => exact spells

/-- What is written is tidy. -/
theorem tidy_write (field : Field α) (value : α) : field.Tidy (field.write value) := by
  cases field with
  | flag => cases value <;> simp [Tidy, write]
  | text =>
    have fits := length_cut_le value
    have length := toNat_length_cut value
    have valid : (Text.utf8 (Text.clip textWidth value)).toByteArray.IsValidUTF8 := ⟨_, rfl⟩
    simp only [write, List.cons_append]
    generalize Text.utf8 (Text.clip textWidth value) = spelled at fits length valid
    refine ⟨_, _, rfl, ?_, ?_, ?_⟩
    · rw [length]
      exact fits
    · rw [length, List.take_left' rfl]
      exact valid
    · rw [length, List.drop_left' rfl]
      exact fun byte => List.eq_of_mem_replicate
  | _ => trivial

/-- Bytes that spell a value are written for it exactly if they are tidy. -/
theorem write_eq_iff_tidy {field : Field α} {value : α} {bytes : Bytes}
    (spells : field.Spells value bytes) : field.write value = bytes ↔ field.Tidy bytes := by
  constructor
  · rintro rfl
    exact field.tidy_write value
  · intro tidy
    exact (eq_write_of_spells spells tidy).symm

/-- What is left of a value is written as the value is. -/
theorem write_canonical (field : Field α) (value : α) :
    field.write (field.canonical value) = field.write value := by
  cases field with
  | text => rw [canonical, write, write, Text.clip_clip]
  | addresses => rw [canonical, write, write, List.take_take, Nat.min_self]
  | _ => rfl

/-- Bytes of a text field that spell no more than the field can hold again, replacement characters
and all. -/
def Fits : Field α → Bytes → Prop
  | .text, bytes => ∀ value, Field.text.Spells value bytes → (Text.utf8 value).length ≤ textWidth
  | _, _ => True

/-- Nothing is cut of a value that was read, if its text fits. -/
theorem canonical_of_spells {field : Field α} {value : α} {bytes : Bytes}
    (spells : field.Spells value bytes) (fits : field.Fits bytes) :
    field.canonical value = value := by
  cases field with
  | text => exact Text.clip_eq_self (fits value spells)
  | addresses => exact List.take_of_length_le spells.1
  | _ => rfl

theorem read_write (field : Field α) (value : α) (rest : Bytes) :
    field.read (field.write value ++ rest) = (.ok (field.canonical value), rest) :=
  field.read_eq_ok_iff.mpr ⟨_, field.spells_write value, rfl⟩

def front (field : Field α) (bytes : Bytes) : Bytes :=
  bytes.take (bytes.length - (field.read bytes).2.length)

theorem front_of_read {field : Field α} {bytes rest : Bytes} {value : α}
    (accepted : field.read bytes = (.ok value, rest)) :
    bytes = field.front bytes ++ rest ∧ field.Spells value (field.front bytes) := by
  obtain ⟨taken, spells, whole⟩ := field.read_eq_ok_iff.mp accepted
  have same : field.front bytes = taken := by
    rw [front, accepted, whole]
    simp
  rw [same]
  exact ⟨whole, spells⟩

end Field

end Wire

end ButtonGateway
