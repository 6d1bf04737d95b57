namespace ButtonGateway.Wire

abbrev Bytes := List UInt8

abbrev Octets (count : Nat) := { bytes : Bytes // bytes.length = count }

def Octets.ofTake (count : Nat) (bytes : Bytes) (enough : count ≤ bytes.length) : Octets count :=
  ⟨bytes.take count, by simp [List.length_take, Nat.min_eq_left enough]⟩

/-- A byte string cut or filled up with zeros to `count` bytes. -/
def Octets.padded (count : Nat) (bytes : Bytes) : Octets count :=
  ⟨(bytes ++ List.replicate count 0).take count, by simp⟩

/-- The lowest `count` base-256 digits of a number, least significant first. -/
def toLittleEndian : Nat → Nat → Bytes
  | 0, _ => []
  | count + 1, number => UInt8.ofNat (number % 256) :: toLittleEndian count (number / 256)

/-- The number whose base-256 digits, least significant first, are the bytes. -/
def ofLittleEndian : Bytes → Nat
  | [] => 0
  | byte :: rest => byte.toNat + 256 * ofLittleEndian rest

@[simp] theorem length_toLittleEndian (count number : Nat) :
    (toLittleEndian count number).length = count := by
  induction count generalizing number with
  | zero => rfl
  | succ count ih => simp [toLittleEndian, ih]

theorem toLittleEndian_ofLittleEndian (bytes : Bytes) :
    toLittleEndian bytes.length (ofLittleEndian bytes) = bytes := by
  induction bytes with
  | nil => rfl
  | cons byte rest ih =>
    have bound := byte.toNat_lt
    have low : (byte.toNat + 256 * ofLittleEndian rest) % 256 = byte.toNat := by omega
    have high : (byte.toNat + 256 * ofLittleEndian rest) / 256 = ofLittleEndian rest := by omega
    simp only [List.length_cons, toLittleEndian, ofLittleEndian, low, high, ih, UInt8.ofNat_toNat]

end ButtonGateway.Wire
