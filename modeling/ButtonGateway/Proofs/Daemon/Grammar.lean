import ButtonGateway.Proofs.Daemon.Event
import ButtonGateway.Proofs.Wire.Verdict

namespace ButtonGateway.Daemon.Event

open Wire

/-- How many addresses the report of the daemon's state lists, which its body says in two bytes. -/
def counted (body : Bytes) : Nat := ofLittleEndian ((body.drop 14).take 2)

/-- The stretches of a body with a given opcode. A text takes one byte for its length and sixteen
more, an address six, and a flag one. -/
def grammar (opcode : UInt8) (body : Bytes) : List Stretch :=
  .plain 1 ::
    match opcode with
    | 0 => [.plain 4, .plain 6, .plain 1, .plain 16, .plain 1, .plain 1, .plain 1, .plain 1,
        .plain 1]
    | 1 => [.plain 4, .code "CreateConnectionChannelError" 2, .code "ConnectionStatus" 3]
    | 2 => [.plain 4, .code "ConnectionStatus" 3, .code "DisconnectReason" 4]
    | 3 => [.plain 4, .code "RemovedReason" 12]
    | 4 | 5 | 6 | 7 => [.plain 4, .code "ClickType" 6, .plain 1, .plain 4]
    | 8 => [.plain 6]
    | 9 => [.code "BluetoothControllerState" 3, .plain 6, .code "BdAddrType" 2, .plain 1, .plain 2,
        .plain 1, .plain 1, .plain 2] ++ List.replicate (counted body) (.plain 6)
    | 10 | 11 => [.plain 1]
    | 12 => [.code "BluetoothControllerState" 3]
    | 13 | 15 | 17 => [.plain 4]
    | 14 => [.plain 6, .plain 16, .plain 1, .plain 16, .plain 1, .plain 16, .plain 1, .plain 4]
    | 16 => [.plain 4, .plain 6, .plain 1, .plain 16]
    | 18 => [.plain 4, .code "ScanWizardResult" 9]
    | 19 => [.plain 6, .plain 1]
    | 20 => [.plain 4, .plain 1, .plain 8]
    | _ => []

private theorem grammar_of_beyond {opcode : UInt8} (beyond : 21 ≤ opcode) (body : Bytes) :
    grammar opcode body = [.plain 1] := by
  unfold grammar
  split
  case h_22 => rfl
  all_goals exact absurd beyond (by decide)

/-- The addresses are counted behind thirteen bytes of the record. -/
theorem stretches_infoLayout (bytes : Bytes) :
    infoLayout.stretches bytes =
      [.code "BluetoothControllerState" 3, .plain 6, .code "BdAddrType" 2, .plain 1, .plain 2,
        .plain 1, .plain 1, .plain 2] ++
          List.replicate (counted (9 :: bytes)) (.plain 6) := by
  simp only [infoLayout, Layout.stretches, Field.stretches, Stretch.span_cons, Stretch.span_nil,
    Stretch.width, List.drop_drop, List.append_nil, counted, List.drop_succ_cons]
  rfl

/-- The grammar says of each opcode what the layout behind it says. -/
theorem stretches_shape (opcode : UInt8) (bytes : Bytes) :
    .plain 1 :: (shape opcode).layout.stretches bytes = grammar opcode (opcode :: bytes) := by
  by_cases beyond : 21 ≤ opcode
  · rw [shape_of_beyond beyond, grammar_of_beyond beyond]
    rfl
  · unfold shape
    split
    case h_22 =>
      simp only [UInt8.le_iff_toNat_le, ← UInt8.toNat_inj, imp_false, UInt8.reduceToNat] at *
      omega
    case h_10 => exact congrArg (Stretch.plain 1 :: ·) (stretches_infoLayout bytes)
    all_goals rfl

/-- Reading an event goes over the stretches of the grammar. -/
theorem covers_read (opcode : UInt8) (bytes : Bytes) :
    Reading.Covers (grammar opcode (opcode :: bytes)) (opcode :: bytes)
      (read (opcode :: bytes)) := by
  obtain ⟨fault, rest⟩ := ((shape opcode).layout.covers_read bytes).map (shape opcode).make
  rw [← stretches_shape]
  refine ⟨?_, ?_⟩
  · rw [Stretch.firstFault?]
    exact fault
  · intro accepted
    rw [Stretch.span_cons, Nat.add_comm]
    exact rest accepted

/-- Only an empty body has not even an opcode. -/
theorem decode_eq_emptyPacket_iff {body : Bytes} :
    decode body = .error .emptyPacket ↔ body = [] := by
  constructor
  · intro failed
    match body with
    | [] => rfl
    | opcode :: bytes =>
      rcases (covers_read opcode bytes).decides.only _ failed with ⟨_, _, other⟩ | ⟨_, _, other⟩
      · cases other
      · cases other
  · rintro rfl
    rfl

/-- More bytes change nothing for a body that did not fail for want of bytes. -/
theorem decode_append_of_settled {body : Bytes}
    (settled : ∀ needed remaining, decode body ≠ .error (.truncated needed remaining))
    (filled : body ≠ []) (more : Bytes) : decode (body ++ more) = decode body := by
  obtain ⟨opcode, bytes, rfl⟩ := List.exists_cons_of_ne_nil filled
  have stable : Stable (shape opcode).read := (shape opcode).layout.stable_read.map _
  have same := stable bytes more settled
  change ((shape opcode).read (bytes ++ more)).1 = _
  rw [same]
  rfl

/-- The length that the grammar requires. For the report of the daemon's state it depends on the
number of addresses in it. -/
theorem span_grammar_info (body : Bytes) :
    Stretch.span (grammar 9 body) = 16 + 6 * counted body := by
  simp [grammar, Stretch.span, Stretch.width]
  omega

/-- A body is decided by the grammar, and by no more of it than is read. Only an empty body has no
opcode, and an opcode beyond the known ones makes an unknown event, whatever follows. Every other
body is what the stretches behind its opcode say, a report of the daemon's state with six bytes more
for each address that it counts. And a body that holds an event, or a code that stands for nothing,
does so with any bytes behind it. -/
theorem bodies_are_decided_by_grammar :
    (∀ body, decode body = .error .emptyPacket ↔ body = []) ∧
    (∀ opcode bytes, 20 < opcode → decode (opcode :: bytes) = .ok (.unknown opcode)) ∧
    (∀ opcode bytes, Reading.Decides (grammar opcode (opcode :: bytes)) (opcode :: bytes)
      (decode (opcode :: bytes))) ∧
    (∀ body, Stretch.span (grammar 9 body) = 16 + 6 * counted body) ∧
    ∀ body more, ((∃ event, decode body = .ok event) ∨
        ∃ vocabulary byte, decode body = .error (.invalidCode vocabulary byte)) →
      decode (body ++ more) = decode body := by
  refine ⟨fun _ => decode_eq_emptyPacket_iff, ?_, fun opcode bytes => (covers_read _ _).decides,
    span_grammar_info, ?_⟩
  · intro opcode bytes beyond
    have known : 21 ≤ opcode := by
      rw [UInt8.lt_iff_toNat_lt] at beyond
      exact UInt8.le_iff_toNat_le.mpr beyond
    rw [decode, read, shape_of_beyond known]
    rfl
  · intro body more decided
    refine decode_append_of_settled ?_ ?_ more
    · intro needed remaining short
      rcases decided with ⟨_, same⟩ | ⟨_, _, same⟩ <;> cases same.symm.trans short
    · rintro rfl
      rcases decided with ⟨_, same⟩ | ⟨_, _, same⟩ <;> cases same

/-- Of a click with an unknown code the code is refused, also if the rest is missing. -/
example : decode [4, 1, 0, 0, 0, 6] = .error (.invalidCode "ClickType" 6) := by decide

/-- Of a click that ends before its code one byte is missed. -/
example : decode [4, 1, 0, 0, 0] = .error (.truncated 1 0) := by decide

end ButtonGateway.Daemon.Event
