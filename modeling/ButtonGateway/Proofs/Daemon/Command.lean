import ButtonGateway.Daemon.Command
import ButtonGateway.Proofs.Wire.Extent

namespace ButtonGateway.Daemon.Command

open Wire

/-- How long a command's body is, by its opcode. Behind the opcode's byte, an identifier takes four
bytes, an address six, a latency mode one and a time two. -/
def size : UInt8 → Nat
  | 0 => 1
  | 3 => 1 + 4 + 6 + 1 + 2
  | 5 | 8 | 11 => 1 + 6
  | 6 => 1 + 4 + 1 + 2
  | 12 => 1 + 4 + 6
  | _ => 1 + 4

/-- Where in a body a latency mode stands, if one belongs to the opcode. -/
def latencyPlace? : UInt8 → Option Nat
  | 3 => some (1 + 4 + 6)
  | 6 => some (1 + 4)
  | _ => none

/-- If a latency mode belongs to the opcode, the byte in its place is one of the three modes. -/
def KnownLatency (opcode : UInt8) (body : Bytes) : Prop :=
  ∀ place, latencyPlace? opcode = some place → ∃ latency, body[place]? = some latency ∧ latency ≤ 2

/-- A body that begins with the command of an opcode. -/
structure WellFormed (opcode : UInt8) (body : Bytes) : Prop where
  first : body.head? = some opcode
  known : opcode ≤ 13
  enough : size opcode ≤ body.length
  latency : KnownLatency opcode body

structure Fits (opcode : UInt8) (shape : Shape Command) : Prop where
  known : opcode ≤ 13
  packet : ∀ record, (shape.make record).packet = ⟨opcode, shape.layout, record⟩
  tidy : ∀ bytes, ∀ piece ∈ shape.layout.pieces bytes, piece.Tidy
  extent : ∀ bytes, shape.layout.extent bytes + 1 = size opcode
  legal : ∀ bytes, shape.layout.Legal bytes ↔ KnownLatency opcode (opcode :: bytes)

private theorem knownLatency_of_none {opcode : UInt8} (none : latencyPlace? opcode = none)
    (body : Bytes) :
    KnownLatency opcode body := by
  intro place some
  cases none.symm.trans some

/-- The byte in a latency mode's place is read as a mode exactly if it is known. -/
theorem legal_drop_iff {opcode : UInt8} {place : Nat} {bytes : Bytes}
    (some : latencyPlace? opcode = some (place + 1)) :
    (Field.code LatencyMode).Legal (bytes.drop place) ↔ KnownLatency opcode (opcode :: bytes) := by
  have there : (opcode :: bytes)[place + 1]? = (bytes.drop place).head? := by
    rw [List.getElem?_cons_succ, List.head?_drop]
  have modes (latency : UInt8) :
      latency ≤ 2 ↔ latency.toNat < (Enumeration.values : List LatencyMode).length := by
    rw [UInt8.le_iff_toNat_le]
    exact Nat.lt_succ_iff.symm
  simp only [KnownLatency, some, Option.some.injEq, forall_eq', there, modes]
  rfl

theorem fits_of_shape? {opcode : UInt8} {shape : Shape Command}
    (found : shape? opcode = some shape) :
    Fits opcode shape := by
  unfold shape? at found
  split at found
  case h_15 => cases found
  all_goals
    cases found
    refine ⟨by decide, fun _ => rfl, ?_, fun _ => rfl, ?_⟩
    · simp [identifier, target, channelLayout, modeLayout, listenerLayout, Layout.pieces,
        Piece.Tidy, Field.Tidy]
  -- Of all fields of a command, only a latency mode can be refused.
  case h_4.refl =>
    intro bytes
    have behind : bytes.drop (4 + 6) = (bytes.drop 4).drop 6 := List.drop_drop.symm
    rw [← legal_drop_iff (rfl : latencyPlace? 3 = some (4 + 6 + 1)), behind]
    exact ⟨fun legal => legal.2.2.1, fun mode => ⟨trivial, trivial, mode, trivial, trivial⟩⟩
  case h_7.refl =>
    intro bytes
    rw [← legal_drop_iff (rfl : latencyPlace? 6 = some (4 + 1))]
    exact ⟨fun legal => legal.2.1, fun mode => ⟨trivial, mode, trivial, trivial⟩⟩
  all_goals
    intro bytes
    exact iff_of_true (by simp [identifier, target, listenerLayout, Layout.Legal, Field.Legal])
      (knownLatency_of_none rfl _)

private theorem exists_shape?_of_le {opcode : UInt8} (known : opcode ≤ 13) :
    ∃ shape, shape? opcode = some shape := by
  unfold shape?
  split
  case h_15 =>
    simp only [UInt8.le_iff_toNat_le, ← UInt8.toNat_inj, imp_false, UInt8.reduceToNat] at *
    omega
  all_goals exact ⟨_, rfl⟩

theorem body_make {opcode : UInt8} {shape : Shape Command} (fits : Fits opcode shape)
    (record : shape.Record) : (shape.make record).body = opcode :: shape.layout.write record := by
  rw [body, fits.packet record]
  rfl

theorem read_body (command : Command) (rest : Bytes) :
    read (command.body ++ rest) = (.ok command, rest) := by
  cases command <;> exact Shape.read_write ⟨_, _⟩ _ rest

theorem decode_body (command : Command) : decode command.body = .ok command := by
  have whole := read_body command []
  rw [List.append_nil] at whole
  rw [decode, whole]

theorem decode_cons_of_shape? {opcode : UInt8} {shape : Shape Command}
    (found : shape? opcode = some shape) (bytes : Bytes) :
    decode (opcode :: bytes) = (shape.read bytes).1 := by
  rw [decode, read, found]

theorem decode_cons_of_none {opcode : UInt8} (none : shape? opcode = none) (bytes : Bytes) :
    decode (opcode :: bytes) = .error (.unknownCommand opcode) := by
  rw [decode, read, none]

/-- A body that holds a command was read by the shape of its opcode. -/
theorem shape_of_decode {body : Bytes} {command : Command} (accepted : decode body = .ok command) :
    ∃ opcode bytes shape record, body = opcode :: bytes ∧ Fits opcode shape ∧
      (shape.layout.read bytes).1 = .ok record ∧ shape.make record = command := by
  match body with
  | [] => cases accepted
  | opcode :: bytes =>
    cases found : shape? opcode with
    | none => cases (decode_cons_of_none found bytes).symm.trans accepted
    | some shape =>
      rw [decode_cons_of_shape? found] at accepted
      obtain ⟨record, taken, made⟩ := Reading.map_eq_ok_iff.mp (Prod.ext accepted rfl)
      exact ⟨opcode, bytes, shape, record, rfl, fits_of_shape? found, congrArg Prod.fst taken, made⟩

private theorem wellFormed_cons_iff {opcode : UInt8} {shape : Shape Command}
    (fits : Fits opcode shape)
    {bytes : Bytes} :
    WellFormed opcode (opcode :: bytes) ↔ (shape.layout.read bytes).Accepted := by
  rw [Layout.accepted_iff, fits.legal bytes]
  have length := fits.extent bytes
  constructor
  · rintro ⟨-, -, enough, latency⟩
    rw [← length, List.length_cons] at enough
    exact ⟨Nat.le_of_succ_le_succ enough, latency⟩
  · rintro ⟨enough, latency⟩
    refine ⟨rfl, fits.known, ?_, latency⟩
    rw [← length, List.length_cons]
    exact Nat.succ_le_succ enough

private theorem wellFormed_of_decode {body : Bytes} {command : Command}
    (accepted : decode body = .ok command) : WellFormed command.opcode body := by
  obtain ⟨opcode, bytes, shape, record, rfl, fits, taken, rfl⟩ := shape_of_decode accepted
  have same : (shape.make record).opcode = opcode := congrArg Packet.opcode (fits.packet record)
  rw [same]
  exact (wellFormed_cons_iff fits).mpr ⟨record, taken⟩

private theorem decode_of_wellFormed {opcode : UInt8} {body : Bytes}
    (wellFormed : WellFormed opcode body) :
    ∃ command, decode body = .ok command := by
  obtain ⟨bytes, rfl⟩ := List.head?_eq_some_iff.mp wellFormed.first
  obtain ⟨shape, found⟩ := exists_shape?_of_le wellFormed.known
  obtain ⟨record, taken⟩ := (wellFormed_cons_iff (fits_of_shape? found)).mp wellFormed
  refine ⟨shape.make record, ?_⟩
  rw [decode_cons_of_shape? found, Shape.read, Reading.map, taken]
  rfl

/-- A command is written as the bytes that it was read from. -/
theorem body_of_decode {body : Bytes} {command : Command} (accepted : decode body = .ok command) :
    command.body = body.take (size command.opcode) := by
  obtain ⟨opcode, bytes, shape, record, rfl, fits, taken, rfl⟩ := shape_of_decode accepted
  have same : (shape.make record).opcode = opcode := congrArg Packet.opcode (fits.packet record)
  rw [same, ← fits.extent bytes, List.take_succ_cons, body_make fits,
    Layout.write_of_accepted taken (fits.tidy bytes)]

theorem length_body (command : Command) : command.body.length = size command.opcode := by
  have decoded := decode_body command
  have long := (wellFormed_of_decode decoded).enough
  have short := congrArg List.length (body_of_decode decoded)
  rw [List.length_take, Nat.min_eq_left long] at short
  exact short

theorem size_le (opcode : UInt8) : size opcode ≤ 14 := by
  unfold size
  split <;> decide

private theorem frame_eq_ok (command : Command) :
    ∃ low high : UInt8, low.toNat + 256 * high.toNat = command.body.length ∧
      command.frame = .ok (low :: high :: command.body) := by
  have short : command.body.length ≤ 14 := length_body command ▸ size_le command.opcode
  refine ⟨UInt8.ofNat (command.body.length % 256),
    UInt8.ofNat (command.body.length / 256 % 256), ?_, ?_⟩
  · rw [UInt8.toNat_ofNat', UInt8.toNat_ofNat']
    omega
  · exact if_pos (Nat.lt_of_le_of_lt short (by decide))

/-- What stands behind a body of its opcode's length is not looked at. -/
theorem decode_append {opcode : UInt8} {body : Bytes} (first : body.head? = some opcode)
    (enough : size opcode ≤ body.length) (more : Bytes) : decode (body ++ more) = decode body := by
  obtain ⟨bytes, rfl⟩ := List.head?_eq_some_iff.mp first
  rw [List.cons_append]
  cases found : shape? opcode with
  | none => rw [decode_cons_of_none found, decode_cons_of_none found]
  | some shape =>
    rw [decode_cons_of_shape? found, decode_cons_of_shape? found]
    have length := (fits_of_shape? found).extent bytes
    rw [← length, List.length_cons] at enough
    have settled := Layout.settled_of_extent_le (Nat.le_of_succ_le_succ enough)
    have stable := shape.layout.stable_read bytes more settled
    rw [Shape.read, stable]
    rfl

/-- Every command is read back from its body, and its frame says how long that is. A body holds a
command exactly if it is well-formed; the command is written as the body's beginning again, and
nothing behind that beginning matters. -/
theorem commands_and_bodies_match :
    (∀ command : Command, decode command.body = .ok command ∧
        (∃ low high : UInt8, low.toNat + 256 * high.toNat = command.body.length ∧
          command.frame = .ok (low :: high :: command.body)) ∧
        command.body.head? = some command.opcode ∧
        command.body.length = size command.opcode) ∧
      (∀ body, (∃ command, decode body = .ok command) ↔ ∃ opcode, WellFormed opcode body) ∧
      (∀ body command, decode body = .ok command →
        command.body = body.take (size command.opcode)) ∧
      ∀ opcode body more, body.head? = some opcode → size opcode ≤ body.length →
        decode (body ++ more) = decode body := by
  refine ⟨fun command => ⟨decode_body command, frame_eq_ok command, rfl, length_body command⟩,
    fun body => ⟨?_, ?_⟩, fun _ _ => body_of_decode, fun _ _ more first enough => ?_⟩
  · rintro ⟨command, accepted⟩
    exact ⟨command.opcode, wellFormed_of_decode accepted⟩
  · rintro ⟨opcode, wellFormed⟩
    exact decode_of_wellFormed wellFormed
  · exact decode_append first enough more

/-- A change of mode with one byte behind it, and the same body with a mode that is not known. -/
theorem mode_change_is_read_without_trailer :
    decode ([6, 1, 0, 0, 0, 2, 0xFF, 0x01] ++ [9]) = .ok (.changeMode 1 .high 511) ∧
      (changeMode 1 .high 511).body = [6, 1, 0, 0, 0, 2, 0xFF, 0x01] ∧
      ¬∃ command, decode [6, 1, 0, 0, 0, 3, 0xFF, 0x01] = .ok command := by
  obtain ⟨-, accepted, written, trailer⟩ := commands_and_bodies_match
  have decoded : decode [6, 1, 0, 0, 0, 2, 0xFF, 0x01] = .ok (.changeMode 1 .high 511) := by decide
  refine ⟨(trailer 6 _ [9] rfl (by decide)).trans decoded, written _ _ decoded, ?_⟩
  rintro found
  obtain ⟨opcode, wellFormed⟩ := (accepted _).mp found
  cases wellFormed.first
  obtain ⟨latency, there, low⟩ := wellFormed.latency 5 rfl
  cases there
  exact absurd low (by decide)

end ButtonGateway.Daemon.Command
