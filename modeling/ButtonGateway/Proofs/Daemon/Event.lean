import ButtonGateway.Daemon.Event
import ButtonGateway.Proofs.Wire.Layout

namespace ButtonGateway.Daemon.Event

open Wire

def revise (text : String → String) (list : List Address → List Address) : Event → Event
  | .advertisement seen => .advertisement { seen with name := text seen.name }
  | .info daemon => .info { daemon with verified := list daemon.verified }
  | .buttonInfo known =>
    .buttonInfo { known with color := text known.color, serial := text known.serial }
  | .wizardFoundPublic wizard address name => .wizardFoundPublic wizard address (text name)
  | event => event

def texts : Event → List String
  | .advertisement seen => [seen.name]
  | .buttonInfo known => [known.color, known.serial]
  | .wizardFoundPublic _ _ name => [name]
  | _ => []

def listed : Event → List Address
  | .info daemon => daemon.verified
  | _ => []

/-- What is unknown has an opcode that nothing known has. -/
def Proper (event : Event) : Prop := ∀ opcode, event = .unknown opcode → 21 ≤ opcode

private theorem revise_revise (text : String → String) (list : List Address → List Address)
    (event : Event) :
    (event.revise text list).revise text list = event.revise (text ∘ text) (list ∘ list) := by
  cases event <;> rfl

private theorem revise_eq_self {text : String → String} {list : List Address → List Address}
    {event : Event} (texts : ∀ part ∈ event.texts, text part = part)
    (listed : list event.listed = event.listed) : event.revise text list = event := by
  cases event with
  | advertisement seen => rw [revise, texts seen.name List.mem_cons_self]
  | info daemon => exact congrArg (fun all => info { daemon with verified := all }) listed
  | buttonInfo known =>
    rw [revise, texts known.color List.mem_cons_self, texts known.serial (by simp [Event.texts])]
  | wizardFoundPublic wizard address name => rw [revise, texts name List.mem_cons_self]
  | _ => rfl

theorem Proper.revise {event : Event} (proper : event.Proper) (text : String → String)
    (list : List Address → List Address) : (event.revise text list).Proper := by
  cases event with
  | unknown => exact proper
  | _ => exact fun _ same => nomatch same

theorem shape_of_beyond {opcode : UInt8} (beyond : 21 ≤ opcode) :
    shape opcode = ⟨.nil, fun () => .unknown opcode⟩ := by
  unfold shape
  split
  case h_22 => rfl
  all_goals exact absurd beyond (by decide)

/-- A shape makes events that an opcode stands for, each from the record in its own packet. -/
def Makes (opcode : UInt8) (shape : Shape Event) : Prop :=
  ∀ record, (shape.make record).packet = ⟨opcode, shape.layout, record⟩ ∧
    (shape.make record).Proper

private theorem makes_shape (opcode : UInt8) : Makes opcode (shape opcode) := by
  unfold shape
  split
  case h_22 =>
    refine fun _ => ⟨rfl, ?_⟩
    rintro _ ⟨⟩
    simp only [UInt8.le_iff_toNat_le, ← UInt8.toNat_inj, imp_false, UInt8.reduceToNat] at *
    omega
  all_goals exact fun _ => ⟨rfl, fun _ same => nomatch same⟩

private theorem read_packet {event : Event} (proper : event.Proper) (rest : Bytes) :
    (shape event.packet.opcode).read (event.packet.layout.write event.packet.record ++ rest) =
      (.ok (event.revise (Text.clip textWidth) (List.take maxListed)), rest) := by
  cases event with
  | unknown opcode =>
    rw [packet, shape_of_beyond (proper opcode rfl)]
    rfl
  | button kind press => cases kind <;> exact Shape.read_write (shape _) _ rest
  | _ => exact Shape.read_write (shape _) _ rest

theorem read_body {event : Event} (proper : event.Proper) (rest : Bytes) :
    read (event.body ++ rest) =
      (.ok (event.revise (Text.clip textWidth) (List.take maxListed)), rest) :=
  read_packet proper rest

theorem decode_body {event : Event} (proper : event.Proper) :
    decode event.body = .ok (event.revise (Text.clip textWidth) (List.take maxListed)) := by
  have whole := read_body proper []
  rw [List.append_nil] at whole
  rw [decode, whole]

/-- What has been cut once is not cut again. -/
theorem cut_cut (event : Event) (limit count : Nat) :
    (event.revise (Text.clip limit) (List.take count)).revise (Text.clip limit) (List.take count) =
      event.revise (Text.clip limit) (List.take count) := by
  have texts : Text.clip limit ∘ Text.clip limit = Text.clip limit :=
    funext (Text.clip_clip limit)
  have lists : List.take count ∘ List.take count = List.take (α := Address) count := by
    funext addresses
    rw [Function.comp_apply, List.take_take, Nat.min_self]
  rw [revise_revise, texts, lists]

/-- An event is read back from its body. Only a text beyond sixteen bytes is cut, between two
characters, and a list beyond what its count can say; what is left comes back for good. -/
theorem event_survives_its_body (event : Event)
    (proper : ∀ opcode, event = .unknown opcode → 21 ≤ opcode) :
    (∀ text short, Text.LongestBeginning 16 text short ↔ short = Text.clip 16 text) ∧
      decode event.body = .ok (event.revise (Text.clip 16) (List.take 65535)) ∧
      ((∀ text ∈ event.texts, (Text.utf8 text).length ≤ 16) → event.listed.length ≤ 65535 →
        decode event.body = .ok event) ∧
      ∀ result, decode event.body = .ok result → decode result.body = .ok result := by
  have decoded : decode event.body = .ok (event.revise (Text.clip 16) (List.take 65535)) :=
    decode_body proper
  refine ⟨fun _ _ => Text.longestBeginning_iff, decoded, ?_, ?_⟩
  · intro narrow short
    rw [decoded, revise_eq_self]
    · intro text member
      exact Text.clip_eq_self (narrow text member)
    · exact List.take_of_length_le short
  · intro result again
    cases again.symm.trans decoded
    have twice := decode_body (Proper.revise proper (Text.clip 16) (List.take 65535))
    exact twice.trans (congrArg Except.ok (cut_cut event 16 65535))

/-- Of six characters with three bytes each, the last would not end within the field. -/
theorem long_name_survives_cut :
    (∀ opcode, wizardFoundPublic 4 ⟨⟨[1, 2, 3, 4, 5, 6], rfl⟩⟩ "€€€€€€" = .unknown opcode →
        21 ≤ opcode) ∧
      decode (wizardFoundPublic 4 ⟨⟨[1, 2, 3, 4, 5, 6], rfl⟩⟩ "€€€€€€").body =
        .ok (wizardFoundPublic 4 ⟨⟨[1, 2, 3, 4, 5, 6], rfl⟩⟩ "€€€€€") := by
  have proper : ∀ opcode, wizardFoundPublic 4 ⟨⟨[1, 2, 3, 4, 5, 6], rfl⟩⟩ "€€€€€€" =
      .unknown opcode → 21 ≤ opcode := fun _ same => nomatch same
  have cut : Text.clip 16 "€€€€€€" = "€€€€€" := by decide
  have decoded := (event_survives_its_body _ proper).2.1
  rw [revise, cut] at decoded
  exact ⟨proper, decoded⟩

def pieces : Bytes → List Piece
  | [] => []
  | opcode :: record => (shape opcode).layout.pieces record

private theorem record_of_decode {opcode : UInt8} {bytes : Bytes} {event : Event}
    (accepted : decode (opcode :: bytes) = .ok event) :
    ∃ record rest, (shape opcode).layout.read bytes = (.ok record, rest) ∧
      (shape opcode).make record = event ∧ read (opcode :: bytes) = (.ok event, rest) := by
  obtain ⟨rest, whole⟩ : ∃ rest, (shape opcode).read bytes = (.ok event, rest) :=
    ⟨_, Prod.ext accepted rfl⟩
  obtain ⟨record, taken, made⟩ := Reading.map_eq_ok_iff.mp whole
  exact ⟨record, rest, taken, made, whole⟩

theorem body_make (opcode : UInt8) (record : (shape opcode).Record) :
    ((shape opcode).make record).body = opcode :: (shape opcode).layout.write record := by
  rw [body, (makes_shape opcode record).1]
  rfl

private theorem decode_body_make (opcode : UInt8) (record : (shape opcode).Record) :
    decode ((shape opcode).make record).body =
      .ok ((shape opcode).make ((shape opcode).layout.canonical record)) := by
  have whole := (shape opcode).read_write record []
  rw [List.append_nil] at whole
  rw [body_make, decode, read, whole]

/-- What is unknown is read from its opcode alone. -/
theorem pieces_of_unknown {opcode other : UInt8} {record : (shape opcode).Record}
    (unknown : (shape opcode).make record = .unknown other) (bytes : Bytes) :
    opcode = other ∧ pieces (opcode :: bytes) = [] := by
  obtain ⟨packet, proper⟩ := makes_shape opcode record
  have same : opcode = other := by
    rw [unknown] at packet
    exact (congrArg Packet.opcode packet).symm
  refine ⟨same, ?_⟩
  rw [pieces, shape_of_beyond (same ▸ proper other unknown)]
  rfl

/-- A body that was read is written again as it was, as far as it was read, if its flags are zero or
one and its texts are spelled tidily; and what is written is read as the same event again, if no
text has grown too long for its field by being read. -/
theorem body_survives_its_event {body : Bytes} {event : Event}
    (accepted : decode body = .ok event) :
    ∃ front rest, body = front ++ rest ∧ read body = (.ok event, rest) ∧
      front = body.take 1 ++ (pieces body).flatMap (·.bytes) ∧
      (∀ opcode, event = .unknown opcode → front = [opcode]) ∧
      ((∀ piece ∈ pieces body, piece.Tidy) → event.body = front) ∧
      ((∀ piece ∈ pieces body, piece.Fits) → decode event.body = .ok event) := by
  match body with
  | [] => cases accepted
  | opcode :: bytes =>
    obtain ⟨record, rest, taken, rfl, whole⟩ := record_of_decode accepted
    obtain ⟨split, written⟩ := Layout.pieces_of_read taken
    refine ⟨opcode :: (pieces (opcode :: bytes)).flatMap (·.bytes), rest, ?_, whole, rfl, ?_, ?_,
      ?_⟩
    · exact congrArg (opcode :: ·) split
    · intro other unknown
      obtain ⟨rfl, none⟩ := pieces_of_unknown unknown bytes
      rw [none]
      rfl
    · intro tidy
      rw [body_make, written tidy]
      rfl
    · intro fits
      rw [decode_body_make, Layout.canonical_of_read taken fits]

/-- A body with a name of one long character, and one byte behind what is read. -/
theorem body_of_found_button_survives :
    decode ([16, 4, 0, 0, 0, 1, 2, 3, 4, 5, 6, 3, 0xE2, 0x82, 0xAC] ++ List.replicate 13 0 ++ [9]) =
        .ok (.wizardFoundPublic 4 ⟨⟨[1, 2, 3, 4, 5, 6], rfl⟩⟩ "€") ∧
      (wizardFoundPublic 4 ⟨⟨[1, 2, 3, 4, 5, 6], rfl⟩⟩ "€").body =
        [16, 4, 0, 0, 0, 1, 2, 3, 4, 5, 6, 3, 0xE2, 0x82, 0xAC] ++ List.replicate 13 0 := by
  have accepted : decode ([16, 4, 0, 0, 0, 1, 2, 3, 4, 5, 6, 3, 0xE2, 0x82, 0xAC] ++
      List.replicate 13 0 ++ [9]) =
        .ok (.wizardFoundPublic 4 ⟨⟨[1, 2, 3, 4, 5, 6], rfl⟩⟩ "€") := by decide +kernel
  have name : Field.text.Tidy ([3, 0xE2, 0x82, 0xAC] ++ List.replicate 13 0) :=
    ⟨3, _, rfl, by decide, ⟨['€'], by decide +kernel⟩,
      fun _ => List.eq_of_mem_replicate (n := 13)⟩
  obtain ⟨front, rest, whole, left, _, _, written, _⟩ := body_survives_its_event accepted
  have unread : rest = [9] := (congrArg Prod.snd left).symm
  refine ⟨accepted, ?_⟩
  rw [unread] at whole
  rw [written, ← List.append_cancel_right whole]
  exact List.forall_mem_cons.mpr ⟨trivial, List.forall_mem_cons.mpr ⟨trivial,
    List.forall_mem_cons.mpr ⟨name, nofun⟩⟩⟩

end ButtonGateway.Daemon.Event
