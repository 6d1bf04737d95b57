import ButtonGateway.Proofs.Wire.Layout

namespace ButtonGateway

theorem Enumeration.exists_ofCode_iff {α : Type} [DecidableEq α] [Enumeration α] {byte : UInt8} :
    (∃ value : α, ofCode byte = .ok value) ↔ byte.toNat < (values : List α).length := by
  have beyond : (ofCode? byte : Option α) = none ↔ (values : List α).length ≤ byte.toNat :=
    ofCode?_eq_none_iff
  unfold ofCode
  cases found : (ofCode? byte : Option α) with
  | none => exact iff_of_false nofun (Nat.not_lt.mpr (beyond.mp found))
  | some value =>
    refine iff_of_true ⟨value, rfl⟩ (Nat.lt_of_not_le ?_)
    intro outside
    cases (beyond.mpr outside).symm.trans found

namespace Wire

variable {α β : Type}

namespace Reading

/-- The reading did not fail for want of bytes. -/
def Settled (reading : Reading α) : Prop :=
  ∀ needed remaining, reading.1 ≠ .error (.truncated needed remaining)

/-- The same reading with more bytes left unread. -/
def followed (reading : Reading α) (more : Bytes) : Reading α := (reading.1, reading.2 ++ more)

def Accepted (reading : Reading α) : Prop := ∃ value, reading.1 = .ok value

theorem Accepted.settled {reading : Reading α} (accepted : reading.Accepted) : reading.Settled := by
  obtain ⟨value, read⟩ := accepted
  intro needed remaining short
  rw [read] at short
  cases short

private theorem settled_map_iff {reading : Reading α} {f : α → β} :
    (reading.map f).Settled ↔ reading.Settled := by
  obtain ⟨outcome, rest⟩ := reading
  cases outcome <;> simp [Settled, map, Except.map]

theorem accepted_map_iff {reading : Reading α} {f : α → β} :
    (reading.map f).Accepted ↔ reading.Accepted := by
  obtain ⟨outcome, rest⟩ := reading
  cases outcome <;> simp [Accepted, map, Except.map]

theorem accepted_andThen_iff {reading : Reading α} {next : α → Bytes → Reading β} :
    (reading.andThen next).Accepted ↔
      ∃ value, reading.1 = .ok value ∧ (next value reading.2).Accepted := by
  obtain ⟨outcome, rest⟩ := reading
  cases outcome <;> simp [Accepted, andThen]

private theorem settled_andThen_iff {reading : Reading α} {next : α → Bytes → Reading β} :
    (reading.andThen next).Settled ↔ reading.Settled ∧
      ∀ value, reading.1 = .ok value → (next value reading.2).Settled := by
  obtain ⟨outcome, rest⟩ := reading
  cases outcome <;> simp [Settled, andThen]

end Reading

/-- A way of reading that is settled by the bytes it takes. -/
def Stable (read : Bytes → Reading α) : Prop :=
  ∀ bytes more, (read bytes).Settled → read (bytes ++ more) = (read bytes).followed more

theorem take_of_le {count : Nat} {bytes : Bytes} (enough : count ≤ bytes.length) :
    take count bytes = (.ok (Octets.ofTake count bytes enough), bytes.drop count) :=
  dif_pos enough

theorem take_of_lt {count : Nat} {bytes : Bytes} (short : bytes.length < count) :
    take count bytes = (.error (.truncated count bytes.length), bytes) :=
  dif_neg (Nat.not_le.mpr short)

theorem takeNumber_of_le {count : Nat} {bytes : Bytes} (enough : count ≤ bytes.length) :
    takeNumber count bytes = (.ok (ofLittleEndian (bytes.take count)), bytes.drop count) := by
  rw [takeNumber, take_of_le enough]
  rfl

theorem takeNumber_of_lt {count : Nat} {bytes : Bytes} (short : bytes.length < count) :
    takeNumber count bytes = (.error (.truncated count bytes.length), bytes) := by
  rw [takeNumber, take_of_lt short]
  rfl

theorem stable_take (count : Nat) : Stable (take count) := by
  intro bytes more settled
  by_cases enough : count ≤ bytes.length
  · have further : count ≤ (bytes ++ more).length := by
      rw [List.length_append]
      omega
    have block : Octets.ofTake count (bytes ++ more) further = Octets.ofTake count bytes enough :=
      Subtype.ext (List.take_append_of_le_length enough)
    rw [take_of_le enough, take_of_le further, block, List.drop_append_of_le_length enough]
    rfl
  · rw [take_of_lt (Nat.lt_of_not_le enough)] at settled
    exact absurd rfl (settled _ _)

theorem Stable.map {read : Bytes → Reading α} (stable : Stable read) (f : α → β) :
    Stable fun bytes => (read bytes).map f := by
  intro bytes more settled
  have same := stable bytes more (Reading.settled_map_iff.mp settled)
  simp only [same]
  rfl

theorem Stable.andThen {read : Bytes → Reading α} {next : α → Bytes → Reading β}
    (stable : Stable read) (further : ∀ value, Stable (next value)) :
    Stable fun bytes => (read bytes).andThen next := by
  intro bytes more settled
  have first : (read bytes).Settled := (Reading.settled_andThen_iff.mp settled).1
  have same := stable bytes more first
  cases outcome : read bytes with
  | mk verdict rest =>
    rw [outcome] at same
    simp only [outcome] at settled
    simp only [same, outcome]
    cases verdict with
    | error fault => rfl
    | ok value => exact further value rest more settled

theorem stable_takeNumber (count : Nat) : Stable (takeNumber count) :=
  (stable_take count).map _

private theorem stable_takeAddress : Stable takeAddress :=
  (stable_take 6).map _

private theorem stable_takeAddresses (count : Nat) : Stable (takeAddresses count) := by
  induction count with
  | zero =>
    intro bytes more settled
    rfl
  | succ count ih => exact stable_takeAddress.andThen fun address => ih.map (address :: ·)

namespace Field

theorem stable_read (field : Field α) : Stable field.read := by
  cases field with
  | u8 | i8 | flag | u16 | i16 | u32 | i64 => exact (stable_takeNumber _).map _
  | code => exact (stable_takeNumber 1).andThen fun number bytes more settled => rfl
  | octets count => exact stable_take count
  | address => exact stable_takeAddress
  | text => exact (stable_takeNumber 1).andThen fun length => (stable_take textWidth).map _
  | addresses => exact (stable_takeNumber 2).andThen stable_takeAddresses

/-- How many bytes a field takes off the front. -/
def extent : Field α → Bytes → Nat
  | .u8, _ | .i8, _ | .flag, _ | @Field.code _ _ _, _ => 1
  | .u16, _ | .i16, _ => 2
  | .u32, _ => 4
  | .i64, _ => 8
  | .octets count, _ => count
  | .address, _ => 6
  | .text, _ => 1 + textWidth
  | .addresses, bytes => 2 + 6 * ofLittleEndian (bytes.take 2)

/-- A code at the front stands for a value. -/
def Legal : Field α → Bytes → Prop
  | @Field.code β _ _, bytes => ∃ byte, bytes.head? = some byte ∧
      byte.toNat < (Enumeration.values : List β).length
  | _, _ => True

/-- Bytes for as many addresses as were counted are read to their end. -/
theorem takeAddresses_of_le {count : Nat} {bytes : Bytes} (enough : 6 * count ≤ bytes.length) :
    ∃ listed, takeAddresses count bytes = (.ok listed, bytes.drop (6 * count)) := by
  induction count generalizing bytes with
  | zero => exact ⟨[], rfl⟩
  | succ count ih =>
    have first : 6 ≤ bytes.length := by omega
    have further : 6 * count ≤ (bytes.drop 6).length := by
      rw [List.length_drop]
      omega
    obtain ⟨others, read⟩ := ih further
    rw [List.drop_drop, Nat.add_comm, ← Nat.mul_succ] at read
    refine ⟨⟨Octets.ofTake 6 bytes first⟩ :: others, ?_⟩
    rw [takeAddresses, takeAddress, take_of_le first]
    change (takeAddresses count (bytes.drop 6)).map _ = _
    rw [read]
    rfl

private theorem takeAddresses_of_lt {count : Nat} {bytes : Bytes}
    (short : bytes.length < 6 * count) :
    ∃ needed remaining, (takeAddresses count bytes).1 = .error (.truncated needed remaining) ∧
      remaining < needed := by
  induction count generalizing bytes with
  | zero => omega
  | succ count ih =>
    rw [takeAddresses, takeAddress]
    by_cases first : 6 ≤ bytes.length
    · have further : (bytes.drop 6).length < 6 * count := by
        rw [List.length_drop]
        omega
      obtain ⟨needed, remaining, read, less⟩ := ih further
      refine ⟨needed, remaining, ?_, less⟩
      rw [take_of_le first]
      change ((takeAddresses count (bytes.drop 6)).map _).1 = _
      rw [Reading.map, read]
      rfl
    · rw [take_of_lt (Nat.lt_of_not_le first)]
      exact ⟨6, bytes.length, rfl, Nat.lt_of_not_le first⟩

section Numbers

variable {count : Nat} {bytes : Bytes} {next : Nat → Bytes → Reading α}

theorem takeNumber_andThen_of_le (enough : count ≤ bytes.length) :
    (takeNumber count bytes).andThen next =
      next (ofLittleEndian (bytes.take count)) (bytes.drop count) := by
  rw [takeNumber_of_le enough]
  rfl

theorem takeNumber_andThen_of_lt (short : bytes.length < count) :
    ((takeNumber count bytes).andThen next).1 = .error (.truncated count bytes.length) := by
  rw [takeNumber_of_lt short]
  rfl

end Numbers

/-- With enough bytes a field is read to its end, and only a code can be refused. -/
theorem read_of_extent_le {field : Field α} {bytes : Bytes}
    (enough : field.extent bytes ≤ bytes.length) :
    (field.read bytes).Settled ∧ (field.read bytes).2 = bytes.drop (field.extent bytes) ∧
      ((field.read bytes).Accepted ↔ field.Legal bytes) := by
  have done {reading : Reading α} {rest : Bytes} {value : α} (read : reading = (.ok value, rest)) :
      reading.Settled ∧ reading.2 = rest ∧ (reading.Accepted ↔ True) := by
    rw [read]
    exact ⟨Reading.Accepted.settled ⟨value, rfl⟩, rfl, iff_of_true ⟨value, rfl⟩ trivial⟩
  cases field with
  | u8 | i8 | flag | u16 | i16 | u32 | i64 =>
    exact done (congrArg (Reading.map _) (takeNumber_of_le enough))
  | octets count => exact done (take_of_le enough)
  | address => exact done (congrArg (Reading.map _) (take_of_le enough))
  | text =>
    have enough : 1 + textWidth ≤ bytes.length := enough
    have first : 1 ≤ bytes.length := by omega
    have block : textWidth ≤ (bytes.drop 1).length := by
      rw [List.length_drop]
      omega
    have taken := congrArg (Reading.map fun block : Octets textWidth =>
      Text.decode (block.val.take (min (ofLittleEndian (bytes.take 1)) textWidth)))
      (take_of_le block)
    rw [List.drop_drop] at taken
    exact done ((takeNumber_andThen_of_le first).trans taken)
  | addresses =>
    have enough : 2 + 6 * ofLittleEndian (bytes.take 2) ≤ bytes.length := enough
    have first : 2 ≤ bytes.length := by omega
    have block : 6 * ofLittleEndian (bytes.take 2) ≤ (bytes.drop 2).length := by
      rw [List.length_drop]
      omega
    obtain ⟨listed, taken⟩ := takeAddresses_of_le block
    rw [List.drop_drop] at taken
    exact done ((takeNumber_andThen_of_le first).trans taken)
  | @code _ _ _ =>
    obtain ⟨byte, rest, rfl⟩ := List.exists_cons_of_length_pos enough
    have taken := takeByte_eq_ok_iff.mpr ⟨byte, rfl, (rfl : byte :: rest = byte :: rest)⟩
    have read : (Field.code α).read (byte :: rest) = (Enumeration.ofCode byte, rest) := by
      rw [Field.read, taken, Reading.andThen, UInt8.ofNat_toNat]
    rw [read]
    refine ⟨?_, rfl, ?_⟩
    · intro needed remaining short
      unfold Enumeration.ofCode at short
      split at short <;> cases short
    · rw [Reading.Accepted, Enumeration.exists_ofCode_iff]
      constructor
      · intro inside
        exact ⟨byte, rfl, inside⟩
      · rintro ⟨_, ⟨⟩, inside⟩
        exact inside

private theorem read_of_extent_lt {field : Field α} {bytes : Bytes}
    (short : bytes.length < field.extent bytes) :
    ∃ needed remaining, (field.read bytes).1 = .error (.truncated needed remaining) ∧
      remaining < needed := by
  have stopped {β : Type} {count : Nat} {reading : Reading β} (f : β → α)
      (less : bytes.length < count)
      (read : reading = (.error (.truncated count bytes.length), bytes)) :
      ∃ needed remaining, (reading.map f).1 = .error (.truncated needed remaining) ∧
        remaining < needed := by
    rw [read]
    exact ⟨count, bytes.length, rfl, less⟩
  cases field with
  | u8 | i8 | flag | u16 | i16 | u32 | i64 => exact stopped _ short (takeNumber_of_lt short)
  | octets count => exact ⟨_, _, congrArg Prod.fst (take_of_lt short), short⟩
  | address => exact stopped _ short (take_of_lt short)
  | code =>
    have none : bytes.length < 1 := short
    rw [read, takeNumber_andThen_of_lt none]
    exact ⟨_, _, rfl, none⟩
  | text =>
    by_cases first : 1 ≤ bytes.length
    · have block : (bytes.drop 1).length < textWidth := by
        have short : bytes.length < 1 + textWidth := short
        rw [List.length_drop]
        omega
      rw [read, takeNumber_andThen_of_le first, take_of_lt block]
      exact ⟨_, _, rfl, block⟩
    · have none := Nat.lt_of_not_le first
      rw [read, takeNumber_andThen_of_lt none]
      exact ⟨_, _, rfl, none⟩
  | addresses =>
    by_cases first : 2 ≤ bytes.length
    · have block : (bytes.drop 2).length < 6 * ofLittleEndian (bytes.take 2) := by
        have short : bytes.length < 2 + 6 * ofLittleEndian (bytes.take 2) := short
        rw [List.length_drop]
        omega
      rw [read, takeNumber_andThen_of_le first]
      exact takeAddresses_of_lt block
    · have none := Nat.lt_of_not_le first
      rw [read, takeNumber_andThen_of_lt none]
      exact ⟨_, _, rfl, none⟩

private theorem extent_le_of_accepted {field : Field α} {bytes : Bytes}
    (accepted : (field.read bytes).Accepted) : field.extent bytes ≤ bytes.length := by
  refine Nat.le_of_not_lt fun short => ?_
  obtain ⟨needed, remaining, failed, -⟩ := read_of_extent_lt short
  exact accepted.settled needed remaining failed

end Field

namespace Layout

def extent {α : Type} : Layout α → Bytes → Nat
  | .nil, _ => 0
  | .cons field layout, bytes =>
    field.extent bytes + layout.extent (bytes.drop (field.extent bytes))

def Legal {α : Type} : Layout α → Bytes → Prop
  | .nil, _ => True
  | .cons field layout, bytes => field.Legal bytes ∧ layout.Legal (bytes.drop (field.extent bytes))

theorem stable_read (layout : Layout α) : Stable layout.read := by
  induction layout with
  | nil =>
    intro bytes more settled
    rfl
  | cons field layout ih => exact field.stable_read.andThen fun value => ih.map _

private theorem accepted_cons_iff {field : Field α} {layout : Layout β} {bytes : Bytes} :
    ((cons field layout).read bytes).Accepted ↔
      (field.read bytes).Accepted ∧ (layout.read (field.read bytes).2).Accepted := by
  simp only [read, Reading.accepted_andThen_iff, Reading.accepted_map_iff]
  constructor
  · rintro ⟨value, here, there⟩
    exact ⟨⟨value, here⟩, there⟩
  · rintro ⟨⟨value, here⟩, there⟩
    exact ⟨value, here, there⟩

/-- A record is read exactly if all its bytes are there and its codes stand for values. -/
theorem accepted_iff {layout : Layout α} {bytes : Bytes} :
    (layout.read bytes).Accepted ↔ layout.extent bytes ≤ bytes.length ∧ layout.Legal bytes := by
  induction layout generalizing bytes with
  | nil => exact iff_of_true ⟨(), rfl⟩ ⟨Nat.zero_le _, trivial⟩
  | cons field layout ih =>
    rw [accepted_cons_iff, extent, Legal]
    by_cases enough : field.extent bytes ≤ bytes.length
    · obtain ⟨-, rest, legal⟩ := Field.read_of_extent_le enough
      rw [legal, rest, ih, List.length_drop]
      constructor
      · rintro ⟨here, further, there⟩
        exact ⟨by omega, here, there⟩
      · rintro ⟨further, here, there⟩
        exact ⟨here, by omega, there⟩
    · refine iff_of_false ?_ fun both => enough (by omega)
      exact fun both => enough (Field.extent_le_of_accepted both.1)

private theorem rest_of_accepted {layout : Layout α} {bytes : Bytes}
    (accepted : (layout.read bytes).Accepted) :
    (layout.read bytes).2 = bytes.drop (layout.extent bytes) := by
  induction layout generalizing bytes with
  | nil => rfl
  | cons field layout ih =>
    obtain ⟨⟨value, here⟩, there⟩ := accepted_cons_iff.mp accepted
    have enough := Field.extent_le_of_accepted ⟨value, here⟩
    obtain ⟨-, rest, -⟩ := Field.read_of_extent_le enough
    have whole : field.read bytes = (.ok value, bytes.drop (field.extent bytes)) :=
      Prod.ext here rest
    rw [rest] at there
    rw [read, whole, extent, ← List.drop_drop, ← ih there]
    rfl

/-- A record whose pieces are tidy is written as the bytes that it was read from. -/
theorem write_of_accepted {layout : Layout α} {bytes : Bytes} {record : α}
    (accepted : (layout.read bytes).1 = .ok record)
    (tidy : ∀ piece ∈ layout.pieces bytes, piece.Tidy) :
    layout.write record = bytes.take (layout.extent bytes) := by
  have rest := rest_of_accepted ⟨record, accepted⟩
  obtain ⟨whole, written⟩ := pieces_of_read (Prod.ext accepted rest)
  rw [← written tidy] at whole
  exact List.append_cancel_right (whole.symm.trans (List.take_append_drop _ bytes).symm)

/-- With enough bytes the reading of a record is settled, even if a code is refused. -/
theorem settled_of_extent_le {layout : Layout α} {bytes : Bytes}
    (enough : layout.extent bytes ≤ bytes.length) : (layout.read bytes).Settled := by
  induction layout generalizing bytes with
  | nil => exact fun _ _ => nofun
  | cons field layout ih =>
    rw [extent] at enough
    obtain ⟨settled, rest, -⟩ := Field.read_of_extent_le (Nat.le_of_add_right_le enough)
    have further : layout.extent (field.read bytes).2 ≤ (field.read bytes).2.length := by
      rw [rest, List.length_drop]
      omega
    exact Reading.settled_andThen_iff.mpr
      ⟨settled, fun value _ => Reading.settled_map_iff.mpr (ih further)⟩

end Layout

end Wire

end ButtonGateway
