import ButtonGateway.Proofs.Wire.Extent
/-!
Verdicts: why a record is refused. A record is a row of stretches of bytes, each of which must be
there, and some of which are codes; the first stretch that is not as it should be decides, whatever
stands behind it.
-/
namespace ButtonGateway.Wire

variable {α β : Type}

inductive Stretch where
  | plain (width : Nat)
  /-- One byte that stands for a value of a vocabulary with so many values. -/
  | code (vocabulary : String) (count : Nat)
  deriving DecidableEq, Repr

namespace Stretch

def width : Stretch → Nat
  | .plain width => width
  | .code _ _ => 1

/-- Why a stretch at the front of some bytes is refused, if it is. -/
def fault? (stretch : Stretch) (bytes : Bytes) : Option Fault :=
  if bytes.length < stretch.width then some (.truncated stretch.width bytes.length)
  else
    match stretch, bytes with
    | .code vocabulary count, byte :: _ =>
      if byte.toNat < count then none else some (.invalidCode vocabulary byte)
    | _, _ => none

/-- A code at the front of some bytes stands for a value, if it is there. -/
def Holds : Stretch → Bytes → Prop
  | .plain _, _ => True
  | .code _ count, bytes => ∀ byte, bytes.head? = some byte → byte.toNat < count

def span (stretches : List Stretch) : Nat := (stretches.map width).sum

/-- All codes that are there stand for values. -/
def Hold (stretches : List Stretch) (bytes : Bytes) : Prop :=
  ∀ front stretch back, stretches = front ++ stretch :: back →
    stretch.Holds (bytes.drop (span front))

/-- Why the first of some stretches is refused that is refused. -/
def firstFault? : List Stretch → Bytes → Option Fault
  | [], _ => none
  | stretch :: rest, bytes =>
    (stretch.fault? bytes).or (firstFault? rest (bytes.drop stretch.width))

variable {stretch : Stretch} {stretches front back : List Stretch} {bytes : Bytes}

@[simp] theorem span_nil : span [] = 0 := rfl

@[simp] theorem span_cons (stretch : Stretch) (rest : List Stretch) :
    span (stretch :: rest) = stretch.width + span rest := rfl

@[simp] theorem span_append (front back : List Stretch) :
    span (front ++ back) = span front + span back := by
  simp [span]

private theorem hold_nil (bytes : Bytes) : Hold [] bytes := by
  intro front stretch back same
  simp at same

private theorem hold_cons_iff : Hold (stretch :: back) bytes ↔
    stretch.Holds bytes ∧ Hold back (bytes.drop stretch.width) := by
  constructor
  · intro hold
    refine ⟨hold [] stretch back rfl, ?_⟩
    rintro front next rest rfl
    rw [List.drop_drop]
    exact hold (stretch :: front) next rest rfl
  · rintro ⟨here, there⟩ front next rest same
    cases front with
    | nil =>
      obtain ⟨rfl, rfl⟩ := List.cons.inj same
      exact here
    | cons first front =>
      obtain ⟨rfl, rfl⟩ := List.cons.inj same
      rw [span_cons, ← List.drop_drop]
      exact there front next rest rfl

theorem fault?_of_short (short : bytes.length < stretch.width) :
    stretch.fault? bytes = some (.truncated stretch.width bytes.length) := if_pos short

theorem fault?_eq_none_iff :
    stretch.fault? bytes = none ↔ stretch.width ≤ bytes.length ∧ stretch.Holds bytes := by
  by_cases short : bytes.length < stretch.width
  · rw [fault?_of_short short]
    exact iff_of_false nofun fun there => Nat.not_le.mpr short there.1
  · have enough := Nat.le_of_not_lt short
    cases stretch with
    | plain width => exact iff_of_true (if_neg short) ⟨enough, trivial⟩
    | code vocabulary count =>
      obtain ⟨byte, rest, rfl⟩ := List.exists_cons_of_length_pos enough
      unfold fault?
      rw [if_neg short]
      by_cases inside : byte.toNat < count <;> simp [inside, Holds, width]

private theorem fault?_eq_truncated_iff {needed remaining : Nat} :
    stretch.fault? bytes = some (.truncated needed remaining) ↔
      bytes.length < stretch.width ∧ needed = stretch.width ∧ remaining = bytes.length := by
  by_cases short : bytes.length < stretch.width
  · rw [fault?_of_short short, Option.some.injEq, Fault.truncated.injEq]
    constructor
    · rintro ⟨rfl, rfl⟩
      exact ⟨short, rfl, rfl⟩
    · rintro ⟨-, rfl, rfl⟩
      exact ⟨rfl, rfl⟩
  · refine iff_of_false ?_ fun there => short there.1
    unfold fault?
    rw [if_neg short]
    split
    · split <;> simp
    · simp

private theorem fault?_eq_invalidCode_iff {vocabulary : String} {byte : UInt8} :
    stretch.fault? bytes = some (.invalidCode vocabulary byte) ↔
      ∃ count, stretch = .code vocabulary count ∧ bytes.head? = some byte ∧
        count ≤ byte.toNat := by
  cases stretch with
  | plain width =>
    refine iff_of_false ?_ (by rintro ⟨_, ⟨⟩, _⟩)
    unfold fault?
    split <;> simp
  | code title size =>
    cases bytes with
    | nil => exact iff_of_false (by simp [fault?, width]) (by simp)
    | cons first rest =>
      by_cases inside : first.toNat < size
      · refine iff_of_false (by simp [fault?, width, inside]) ?_
        rintro ⟨_, ⟨⟩, ⟨⟩, beyond⟩
        exact Nat.not_le.mpr inside beyond
      · have refused : (code title size).fault? (first :: rest) =
            some (.invalidCode title first) := by
          simp [fault?, width, inside]
        rw [refused, Option.some.injEq, Fault.invalidCode.injEq]
        constructor
        · rintro ⟨rfl, rfl⟩
          exact ⟨size, rfl, rfl, Nat.le_of_not_lt inside⟩
        · rintro ⟨_, ⟨⟩, ⟨⟩, _⟩
          exact ⟨rfl, rfl⟩

theorem firstFault?_append (front back : List Stretch) (bytes : Bytes) :
    firstFault? (front ++ back) bytes =
      (firstFault? front bytes).or (firstFault? back (bytes.drop (span front))) := by
  induction front generalizing bytes with
  | nil => rfl
  | cons stretch front ih =>
    rw [List.cons_append, firstFault?, firstFault?, ih, span_cons, ← List.drop_drop,
      Option.or_assoc]

/-- Nothing is refused exactly if all bytes are there and all codes stand for values. -/
theorem firstFault?_eq_none_iff :
    firstFault? stretches bytes = none ↔ span stretches ≤ bytes.length ∧ Hold stretches bytes := by
  induction stretches generalizing bytes with
  | nil => exact iff_of_true rfl ⟨Nat.zero_le _, hold_nil bytes⟩
  | cons stretch rest ih =>
    rw [firstFault?, Option.or_eq_none_iff, fault?_eq_none_iff, ih, hold_cons_iff, span_cons,
      List.length_drop]
    constructor
    · rintro ⟨⟨here, holds⟩, further, hold⟩
      exact ⟨by omega, holds, hold⟩
    · rintro ⟨whole, holds, hold⟩
      exact ⟨⟨by omega, holds⟩, by omega, hold⟩

/-- What is refused is a stretch behind others that are as they should be. -/
theorem firstFault?_eq_some_iff {fault : Fault} :
    firstFault? stretches bytes = some fault ↔
      ∃ front stretch back, stretches = front ++ stretch :: back ∧
        firstFault? front bytes = none ∧ stretch.fault? (bytes.drop (span front)) = some fault := by
  constructor
  · intro refused
    induction stretches generalizing bytes with
    | nil => cases refused
    | cons first rest ih =>
      rw [firstFault?] at refused
      cases here : first.fault? bytes with
      | some other =>
        rw [here] at refused
        exact ⟨[], first, rest, rfl, rfl, here.trans refused⟩
      | none =>
        rw [here, Option.none_or] at refused
        obtain ⟨front, stretch, back, rfl, clean, fault⟩ := ih refused
        refine ⟨first :: front, stretch, back, rfl, ?_, ?_⟩
        · rw [firstFault?, here, Option.none_or, clean]
        · rw [span_cons, ← List.drop_drop, fault]
  · rintro ⟨front, stretch, back, rfl, clean, fault⟩
    rw [firstFault?_append, clean, Option.none_or, firstFault?, fault, Option.some_or]

/-- A code is refused that is there and stands for nothing, if it is the first such. -/
theorem firstFault?_eq_invalidCode_iff {vocabulary : String} {byte : UInt8} :
    firstFault? stretches bytes = some (.invalidCode vocabulary byte) ↔
      ∃ front count back, stretches = front ++ .code vocabulary count :: back ∧
        Hold front bytes ∧ bytes[span front]? = some byte ∧ count ≤ byte.toNat := by
  rw [firstFault?_eq_some_iff]
  constructor
  · rintro ⟨front, stretch, back, same, clean, fault⟩
    obtain ⟨count, rfl, there, beyond⟩ := fault?_eq_invalidCode_iff.mp fault
    rw [List.head?_drop] at there
    exact ⟨front, count, back, same, (firstFault?_eq_none_iff.mp clean).2, there, beyond⟩
  · rintro ⟨front, count, back, same, hold, there, beyond⟩
    obtain ⟨inside, -⟩ := List.getElem?_eq_some_iff.mp there
    refine ⟨front, _, back, same, firstFault?_eq_none_iff.mpr ⟨Nat.le_of_lt inside, hold⟩, ?_⟩
    exact fault?_eq_invalidCode_iff.mpr ⟨count, rfl, List.head?_drop.trans there, beyond⟩

/-- Bytes are missed at the first stretch that is not all there, if no code before is refused. -/
theorem firstFault?_eq_truncated_iff {needed remaining : Nat} :
    firstFault? stretches bytes = some (.truncated needed remaining) ↔
      ∃ front stretch back, stretches = front ++ stretch :: back ∧ Hold front bytes ∧
        span front ≤ bytes.length ∧ needed = stretch.width ∧
        remaining = bytes.length - span front ∧ remaining < needed := by
  rw [firstFault?_eq_some_iff]
  constructor
  · rintro ⟨front, stretch, back, same, clean, fault⟩
    obtain ⟨short, rfl, rfl⟩ := fault?_eq_truncated_iff.mp fault
    obtain ⟨enough, hold⟩ := firstFault?_eq_none_iff.mp clean
    exact ⟨front, stretch, back, same, hold, enough, rfl, List.length_drop, short⟩
  · rintro ⟨front, stretch, back, same, hold, enough, rfl, rfl, short⟩
    refine ⟨front, stretch, back, same, firstFault?_eq_none_iff.mpr ⟨enough, hold⟩, ?_⟩
    rw [← List.length_drop] at short ⊢
    exact fault?_eq_truncated_iff.mpr ⟨short, rfl, rfl⟩

/-- There are no other faults. -/
theorem truncated_or_invalidCode {fault : Fault}
    (refused : firstFault? stretches bytes = some fault) :
    (∃ needed remaining, fault = .truncated needed remaining) ∨
      ∃ vocabulary byte, fault = .invalidCode vocabulary byte := by
  obtain ⟨front, stretch, back, -, -, here⟩ := firstFault?_eq_some_iff.mp refused
  unfold fault? at here
  split at here
  · exact .inl ⟨_, _, (Option.some.inj here).symm⟩
  · split at here
    · split at here
      · cases here
      · exact .inr ⟨_, _, (Option.some.inj here).symm⟩
    · cases here

end Stretch

namespace Reading

def fault? (reading : Reading α) : Option Fault :=
  match reading.1 with
  | .ok _ => none
  | .error fault => some fault

theorem fault?_eq_none_iff {reading : Reading α} : reading.fault? = none ↔ reading.Accepted := by
  obtain ⟨outcome, rest⟩ := reading
  cases outcome <;> simp [fault?, Accepted]

theorem fault?_eq_some_iff {reading : Reading α} {fault : Fault} :
    reading.fault? = some fault ↔ reading.1 = .error fault := by
  obtain ⟨outcome, rest⟩ := reading
  cases outcome <;> simp [fault?]

private theorem fault?_map (reading : Reading α) (f : α → β) :
    (reading.map f).fault? = reading.fault? := by
  obtain ⟨outcome, rest⟩ := reading
  cases outcome <;> rfl

/-- A reading takes some stretches off the front of some bytes, or fails as they do. -/
structure Covers (stretches : List Stretch) (bytes : Bytes) (reading : Reading α) : Prop where
  fault : reading.fault? = Stretch.firstFault? stretches bytes
  rest : reading.Accepted → reading.2 = bytes.drop (Stretch.span stretches)

variable {front back : List Stretch} {bytes : Bytes} {reading : Reading α}

theorem Covers.map (covers : Covers front bytes reading) (f : α → β) :
    Covers front bytes (reading.map f) where
  fault := (fault?_map reading f).trans covers.fault
  rest accepted := covers.rest (accepted_map_iff.mp accepted)

theorem Covers.andThen (covers : Covers front bytes reading) {next : α → Bytes → Reading β}
    (further : ∀ value, reading.1 = .ok value → Covers back (bytes.drop (Stretch.span front))
      (next value (bytes.drop (Stretch.span front)))) :
    Covers (front ++ back) bytes (reading.andThen next) := by
  obtain ⟨outcome, rest⟩ := reading
  cases outcome with
  | error fault =>
    constructor
    · rw [Stretch.firstFault?_append, ← covers.fault]
      rfl
    · intro accepted
      obtain ⟨value, read, -⟩ := accepted_andThen_iff.mp accepted
      cases read
  | ok value =>
    have left : rest = bytes.drop (Stretch.span front) := covers.rest ⟨value, rfl⟩
    obtain ⟨fault, behind⟩ := further value rfl
    rw [← left] at fault behind
    constructor
    · rw [Stretch.firstFault?_append, ← covers.fault, ← left]
      exact fault
    · intro accepted
      rw [Stretch.span_append, ← List.drop_drop, ← left]
      exact behind accepted

/-- An outcome is what some stretches say about some bytes: a value exactly if the bytes are all
there and the codes among them stand for values; otherwise the first code that stands for nothing
and is there, whatever is missing behind it; otherwise the first stretch that is not all there, with
its width and the number of bytes left for it. -/
structure Decides (stretches : List Stretch) (bytes : Bytes) (outcome : Except Fault α) :
    Prop where
  accepted : (∃ value, outcome = .ok value) ↔
    Stretch.span stretches ≤ bytes.length ∧ Stretch.Hold stretches bytes
  refused : ∀ vocabulary byte, outcome = .error (.invalidCode vocabulary byte) ↔
    ∃ front count back, stretches = front ++ .code vocabulary count :: back ∧
      Stretch.Hold front bytes ∧ bytes[Stretch.span front]? = some byte ∧ count ≤ byte.toNat
  short : ∀ needed remaining, outcome = .error (.truncated needed remaining) ↔
    ∃ front stretch back, stretches = front ++ stretch :: back ∧ Stretch.Hold front bytes ∧
      Stretch.span front ≤ bytes.length ∧ needed = stretch.width ∧
      remaining = bytes.length - Stretch.span front ∧ remaining < needed
  only : ∀ fault, outcome = .error fault →
    (∃ needed remaining, fault = .truncated needed remaining) ∨
      ∃ vocabulary byte, fault = .invalidCode vocabulary byte

theorem Covers.decides (covers : Covers front bytes reading) : Decides front bytes reading.1 where
  accepted := by
    rw [← Stretch.firstFault?_eq_none_iff, ← covers.fault, fault?_eq_none_iff, Accepted]
  refused vocabulary byte := by
    rw [← Stretch.firstFault?_eq_invalidCode_iff, ← covers.fault, fault?_eq_some_iff]
  short needed remaining := by
    rw [← Stretch.firstFault?_eq_truncated_iff, ← covers.fault, fault?_eq_some_iff]
  only fault failed := by
    rw [← fault?_eq_some_iff, covers.fault] at failed
    exact Stretch.truncated_or_invalidCode failed

end Reading

open Reading

theorem covers_take (count : Nat) (bytes : Bytes) :
    Covers [.plain count] bytes (take count bytes) := by
  by_cases enough : count ≤ bytes.length
  · have clean : (Stretch.plain count).fault? bytes = none :=
      Stretch.fault?_eq_none_iff.mpr ⟨enough, trivial⟩
    rw [take_of_le enough]
    refine ⟨?_, fun _ => rfl⟩
    rw [Stretch.firstFault?, clean]
    rfl
  · have short := Nat.lt_of_not_le enough
    rw [take_of_lt short]
    refine ⟨?_, nofun⟩
    rw [Stretch.firstFault?, Stretch.fault?_of_short short]
    rfl

theorem covers_takeNumber (count : Nat) (bytes : Bytes) :
    Covers [.plain count] bytes (takeNumber count bytes) :=
  (covers_take count bytes).map _

private theorem number_of_takeNumber {count number : Nat} {bytes : Bytes}
    (taken : (takeNumber count bytes).1 = .ok number) :
    number = ofLittleEndian (bytes.take count) := by
  by_cases enough : count ≤ bytes.length
  · rw [takeNumber_of_le enough] at taken
    exact (Except.ok.inj taken).symm
  · rw [takeNumber_of_lt (Nat.lt_of_not_le enough)] at taken
    cases taken

private theorem covers_takeAddresses (count : Nat) (bytes : Bytes) :
    Covers (List.replicate count (.plain 6)) bytes (takeAddresses count bytes) := by
  induction count generalizing bytes with
  | zero => exact ⟨rfl, fun _ => rfl⟩
  | succ count ih =>
    rw [List.replicate_succ, ← List.singleton_append]
    exact ((covers_take 6 bytes).map Address.mk).andThen fun address _ => (ih _).map (address :: ·)

/-- A code is read off one byte. -/
theorem covers_code [DecidableEq α] [Enumeration α] (bytes : Bytes) :
    Covers [.code (Enumeration.title α) (Enumeration.values : List α).length] bytes
      ((Field.code α).read bytes) := by
  match bytes with
  | [] => exact ⟨rfl, nofun⟩
  | byte :: rest =>
    have taken := takeByte_eq_ok_iff.mpr ⟨byte, rfl, (rfl : byte :: rest = byte :: rest)⟩
    have read : (Field.code α).read (byte :: rest) = (Enumeration.ofCode byte, rest) := by
      rw [Field.read, taken, Reading.andThen, UInt8.ofNat_toNat]
    have beyond : (Enumeration.ofCode? byte : Option α) = none ↔ _ :=
      Enumeration.ofCode?_eq_none_iff
    rw [read]
    refine ⟨?_, fun _ => rfl⟩
    unfold Enumeration.ofCode
    cases found : (Enumeration.ofCode? byte : Option α) with
    | none =>
      have outside := beyond.mp found
      simp [Reading.fault?, Stretch.firstFault?, Stretch.fault?, Stretch.width,
        Nat.not_lt.mpr outside]
    | some value =>
      have inside : byte.toNat < (Enumeration.values : List α).length := by
        refine Nat.lt_of_not_le fun outside => ?_
        cases (beyond.mpr outside).symm.trans found
      simp [Reading.fault?, Stretch.firstFault?, Stretch.fault?, Stretch.width, inside]

/-- The stretches of a field at the front of some bytes. -/
def Field.stretches : Field α → Bytes → List Stretch
  | .u8, _ | .i8, _ | .flag, _ => [.plain 1]
  | .u16, _ | .i16, _ => [.plain 2]
  | .u32, _ => [.plain 4]
  | .i64, _ => [.plain 8]
  | @Field.code α _ _, _ => [.code (Enumeration.title α) (Enumeration.values : List α).length]
  | .octets count, _ => [.plain count]
  | .address, _ => [.plain 6]
  | .text, _ => [.plain 1, .plain textWidth]
  | .addresses, bytes =>
    .plain 2 :: List.replicate (ofLittleEndian (bytes.take 2)) (.plain 6)

theorem Field.covers_read (field : Field α) (bytes : Bytes) :
    Covers (field.stretches bytes) bytes (field.read bytes) := by
  cases field with
  | u8 | i8 | flag | u16 | i16 | u32 | i64 => exact (covers_takeNumber _ bytes).map _
  | code => exact covers_code bytes
  | octets count => exact covers_take count bytes
  | address => exact (covers_take 6 bytes).map _
  | text =>
    exact (covers_takeNumber 1 bytes).andThen fun length _ => (covers_take textWidth _).map _
  | addresses =>
    refine (covers_takeNumber 2 bytes).andThen fun count counted => ?_
    rw [← number_of_takeNumber counted]
    exact covers_takeAddresses count _

/-- The stretches of a record at the front of some bytes. -/
def Layout.stretches {α : Type} : Layout α → Bytes → List Stretch
  | .nil, _ => []
  | .cons field layout, bytes =>
    field.stretches bytes ++ layout.stretches (bytes.drop (Stretch.span (field.stretches bytes)))

theorem Layout.covers_read (layout : Layout α) (bytes : Bytes) :
    Covers (layout.stretches bytes) bytes (layout.read bytes) := by
  induction layout generalizing bytes with
  | nil => exact ⟨rfl, fun _ => rfl⟩
  | cons field layout ih => exact (field.covers_read bytes).andThen fun value _ => (ih _).map _

end ButtonGateway.Wire
