import Mathlib.Data.List.Forall2
import ButtonGateway.Proofs.Wire.Extent

namespace ButtonGateway.Wire

variable {α β : Type}

/-- A reading ends somewhere in the bytes that it began with, and if it complains of too few bytes,
it counts those that it left. -/
structure Advances (bytes : Bytes) (reading : Reading α) : Prop where
  suffix : reading.2 <:+ bytes
  counted : ∀ needed remaining, reading.1 = .error (.truncated needed remaining) →
    remaining = reading.2.length ∧ remaining < needed

theorem Advances.map {bytes : Bytes} {reading : Reading α} (advances : Advances bytes reading)
    (f : α → β) : Advances bytes (reading.map f) := by
  refine ⟨advances.suffix, ?_⟩
  intro needed remaining short
  apply advances.counted
  obtain ⟨outcome, rest⟩ := reading
  cases outcome with
  | ok value => cases short
  | error fault => exact congrArg Except.error (Except.error.inj short)

theorem Advances.andThen {bytes : Bytes} {reading : Reading α} (advances : Advances bytes reading)
    {next : α → Bytes → Reading β} (further : ∀ value rest, Advances rest (next value rest)) :
    Advances bytes (reading.andThen next) := by
  obtain ⟨outcome, rest⟩ := reading
  cases outcome with
  | ok value =>
    have onward := further value rest
    exact ⟨onward.suffix.trans advances.suffix, onward.counted⟩
  | error fault =>
    refine ⟨advances.suffix, ?_⟩
    intro needed remaining short
    exact advances.counted needed remaining (congrArg Except.error (Except.error.inj short))

theorem advances_take (count : Nat) (bytes : Bytes) : Advances bytes (take count bytes) := by
  by_cases enough : count ≤ bytes.length
  · rw [take_of_le enough]
    exact ⟨List.drop_suffix count bytes, fun _ _ => nofun⟩
  · have short := Nat.lt_of_not_le enough
    rw [take_of_lt short]
    refine ⟨List.suffix_rfl, ?_⟩
    rintro needed remaining ⟨⟩
    exact ⟨rfl, short⟩

theorem advances_takeNumber (count : Nat) (bytes : Bytes) :
    Advances bytes (takeNumber count bytes) :=
  (advances_take count bytes).map _

private theorem advances_takeAddress (bytes : Bytes) : Advances bytes (takeAddress bytes) :=
  (advances_take 6 bytes).map _

private theorem advances_takeAddresses (count : Nat) (bytes : Bytes) :
    Advances bytes (takeAddresses count bytes) := by
  induction count generalizing bytes with
  | zero => exact ⟨List.suffix_rfl, fun _ _ => nofun⟩
  | succ count ih =>
    exact (advances_takeAddress bytes).andThen fun address rest => (ih rest).map (address :: ·)

/-- A code is looked up behind its byte, so that an unknown one has been passed. -/
theorem advances_code [DecidableEq α] [Enumeration α] (byte : UInt8) (rest : Bytes) :
    Advances rest ((Enumeration.ofCode byte : Except Fault α), rest) := by
  refine ⟨List.suffix_rfl, ?_⟩
  intro needed remaining short
  unfold Enumeration.ofCode at short
  split at short <;> cases short

namespace Field

private theorem advances_read (field : Field α) (bytes : Bytes) :
    Advances bytes (field.read bytes) := by
  cases field with
  | u8 | i8 | flag | u16 | i16 | u32 | i64 => exact (advances_takeNumber _ bytes).map _
  | code => exact (advances_takeNumber 1 bytes).andThen fun number => advances_code _
  | octets count => exact advances_take count bytes
  | address => exact advances_takeAddress bytes
  | text =>
    exact (advances_takeNumber 1 bytes).andThen fun length rest =>
      (advances_take textWidth rest).map _
  | addresses => exact (advances_takeNumber 2 bytes).andThen advances_takeAddresses

/-- How many bytes a field takes that is taken in one piece. A text comes in two pieces, its length
and its bytes, and a list of addresses in one for its count and one for each address. -/
def width? : Field α → Option Nat
  | .u8 | .i8 | .flag | @Field.code _ _ _ => some 1
  | .u16 | .i16 => some 2
  | .u32 => some 4
  | .i64 => some 8
  | .octets count => some count
  | .address => some 6
  | .text | .addresses => none

private theorem extent_of_width? {field : Field α} {width : Nat}
    (single : field.width? = some width)
    (bytes : Bytes) : field.extent bytes = width := by
  cases field with
  | text | addresses => cases single
  | _ => exact Option.some.inj single

/-- Without its bytes a field that is taken in one piece leaves all as it is. -/
theorem read_of_lt_width {field : Field α} {width : Nat} (single : field.width? = some width)
    {bytes : Bytes} (short : bytes.length < width) :
    field.read bytes = (.error (.truncated width bytes.length), bytes) := by
  cases field with
  | text | addresses => cases single
  | u8 | i8 | flag | u16 | i16 | u32 | i64 =>
    cases single
    exact congrArg (Reading.map _) (takeNumber_of_lt short)
  | code =>
    cases single
    rw [read, takeNumber_of_lt short]
    rfl
  | octets count =>
    cases single
    exact take_of_lt short
  | address =>
    cases single
    exact congrArg (Reading.map _) (take_of_lt short)

private theorem truncated_of_width? {field : Field α} {width : Nat}
    (single : field.width? = some width)
    {bytes : Bytes} {needed remaining : Nat}
    (failed : (field.read bytes).1 = .error (.truncated needed remaining)) :
    needed = width ∧ (field.read bytes).2 = bytes := by
  by_cases enough : width ≤ bytes.length
  · have settled := (read_of_extent_le (extent_of_width? single bytes ▸ enough)).1
    exact absurd failed (settled needed remaining)
  · have read := read_of_lt_width single (Nat.lt_of_not_le enough)
    rw [read] at failed ⊢
    cases failed
    exact ⟨rfl, rfl⟩

/-- A text whose bytes are missing has lost its length, if that was there. -/
theorem truncated_text {bytes : Bytes} {needed remaining : Nat}
    (failed : (text.read bytes).1 = .error (.truncated needed remaining)) :
    needed = 1 ∧ (text.read bytes).2 = bytes ∨
      needed = 16 ∧ (text.read bytes).2 = bytes.drop 1 := by
  cases bytes with
  | nil =>
    cases failed
    exact .inl ⟨rfl, rfl⟩
  | cons length block =>
    by_cases enough : textWidth ≤ block.length
    · have whole : text.extent (length :: block) ≤ (length :: block).length := by
        rw [List.length_cons, Nat.add_comm]
        exact Nat.add_le_add_left enough 1
      exact absurd failed ((read_of_extent_le whole).1 needed remaining)
    · have read : text.read (length :: block) =
          (.error (.truncated textWidth block.length), block) :=
        congrArg (Reading.map _) (take_of_lt (Nat.lt_of_not_le enough))
      rw [read] at failed ⊢
      cases failed
      exact .inr ⟨rfl, rfl⟩

/-- A value that a field can hold whole: a text of at most sixteen bytes, or a list of addresses
that can be counted. -/
def Whole : Field α → α → Prop
  | .text, value => (Text.utf8 value).length ≤ 16
  | .addresses, value => value.length ≤ 65535
  | _, _ => True

theorem canonical_of_whole {field : Field α} {value : α} (whole : field.Whole value) :
    field.canonical value = value := by
  cases field with
  | text => exact Text.clip_eq_self whole
  | addresses => exact List.take_of_length_le whole
  | _ => rfl

end Field

/-- What is left of bytes behind some fields, whether these could be read or not. -/
def unread (fields : List AnyField) (bytes : Bytes) : Bytes :=
  fields.foldl (fun rest field => (field.2.read rest).2) bytes

/-- The place in bytes where reading goes on behind some fields. -/
def cursor (fields : List AnyField) (bytes : Bytes) : Nat :=
  bytes.length - (unread fields bytes).length

private theorem unread_append (first second : List AnyField) (bytes : Bytes) :
    unread (first ++ second) bytes = unread second (unread first bytes) :=
  List.foldl_append

theorem unread_suffix (fields : List AnyField) (bytes : Bytes) : unread fields bytes <:+ bytes := by
  induction fields generalizing bytes with
  | nil => exact List.suffix_rfl
  | cons field later ih => exact (ih _).trans (field.2.advances_read bytes).suffix

theorem unread_eq_drop (fields : List AnyField) (bytes : Bytes) :
    unread fields bytes = bytes.drop (cursor fields bytes) :=
  List.suffix_iff_eq_drop.mp (unread_suffix fields bytes)

private theorem cursor_le (fields : List AnyField) (bytes : Bytes) :
    cursor fields bytes ≤ bytes.length :=
  Nat.sub_le _ _

private theorem length_unread (fields : List AnyField) (bytes : Bytes) :
    (unread fields bytes).length = bytes.length - cursor fields bytes := by
  have within := (unread_suffix fields bytes).length_le
  unfold cursor
  omega

private theorem cursor_le_append (first second : List AnyField) (bytes : Bytes) :
    cursor first bytes ≤ cursor (first ++ second) bytes := by
  have shorter := (unread_suffix second (unread first bytes)).length_le
  rw [← unread_append] at shorter
  unfold cursor
  omega

private theorem readEach_append (first second : List AnyField) (bytes : Bytes) :
    readEach (first ++ second) bytes =
      readEach first bytes ++ readEach second (unread first bytes) := by
  induction first generalizing bytes with
  | nil => rfl
  | cons field later ih =>
    rw [List.cons_append, readEach, readEach, ih]
    rfl

theorem unread_concat (fields : List AnyField) (field : Field α) (bytes : Bytes) :
    unread (fields ++ [⟨α, field⟩]) bytes = (field.read (bytes.drop (cursor fields bytes))).2 := by
  rw [unread_append, unread_eq_drop fields]
  rfl

/-- The next field is read at the cursor. -/
theorem readEach_concat (fields : List AnyField) (field : Field α) (bytes : Bytes) :
    readEach (fields ++ [⟨α, field⟩]) bytes = readEach fields bytes ++
      [⟨field, (field.read (bytes.drop (cursor fields bytes))).1,
        bytes.length - cursor (fields ++ [⟨α, field⟩]) bytes⟩] := by
  rw [readEach_append, ← length_unread, unread_concat, unread_eq_drop]
  rfl

/-- If bytes are missing, those behind the cursor are counted, and the cursor has not moved unless
the field is taken in pieces. -/
theorem cursor_of_truncated {fields : List AnyField} {field : Field α} {bytes : Bytes}
    {needed remaining : Nat}
    (failed : (field.read (bytes.drop (cursor fields bytes))).1 =
      .error (.truncated needed remaining)) :
    remaining = bytes.length - cursor (fields ++ [⟨α, field⟩]) bytes ∧ remaining < needed ∧
      ∀ width, field.width? = some width →
        needed = width ∧ cursor (fields ++ [⟨α, field⟩]) bytes = cursor fields bytes := by
  obtain ⟨counted, less⟩ := (field.advances_read _).counted needed remaining failed
  rw [← unread_concat, length_unread] at counted
  refine ⟨counted, less, ?_⟩
  intro width single
  obtain ⟨known, still⟩ := Field.truncated_of_width? single failed
  rw [← unread_concat, ← unread_eq_drop] at still
  exact ⟨known, congrArg (fun rest => bytes.length - rest.length) still⟩

structure Entry where
  {Value : Type}
  field : Field Value
  value : Value

namespace Entry

def kind (entry : Entry) : AnyField := ⟨entry.Value, entry.field⟩

def bytes (entry : Entry) : Bytes := entry.field.write entry.value

def Whole (entry : Entry) : Prop := entry.field.Whole entry.value

/-- The field was read and gave the value. -/
def ReturnedBy (entry : Entry) (step : Step) : Prop :=
  ∃ remaining, step = ⟨entry.field, .ok entry.value, remaining⟩

private theorem read_bytes {entry : Entry} (whole : entry.Whole) (rest : Bytes) :
    entry.field.read (entry.bytes ++ rest) = (.ok entry.value, rest) := by
  rw [bytes, Field.read_write, Field.canonical_of_whole whole]

end Entry

/-- Adds a row of entries at the end. -/
def Draft.putAll (draft : Draft) (entries : List Entry) : Draft :=
  entries.foldl (fun before entry => before.put entry.field entry.value) draft

private theorem Draft.bytes_putAll (draft : Draft) (entries : List Entry) :
    (draft.putAll entries).bytes = draft.bytes ++ entries.flatMap Entry.bytes := by
  induction entries generalizing draft with
  | nil => exact (List.append_nil _).symm
  | cons entry later ih =>
    have further := ih (draft.put entry.field entry.value)
    rw [List.flatMap_cons, ← List.append_assoc]
    exact further

private theorem readEach_entries {entries : List Entry} (whole : ∀ entry ∈ entries, entry.Whole)
    (rest : Bytes) :
    List.Forall₂ Entry.ReturnedBy entries
        (readEach (entries.map Entry.kind) (entries.flatMap Entry.bytes ++ rest)) ∧
      unread (entries.map Entry.kind) (entries.flatMap Entry.bytes ++ rest) = rest := by
  induction entries with
  | nil => exact ⟨.nil, rfl⟩
  | cons entry later ih =>
    obtain ⟨here, there⟩ := List.forall_mem_cons.mp whole
    obtain ⟨returned, left⟩ := ih there
    have read := Entry.read_bytes here (later.flatMap Entry.bytes ++ rest)
    have step : readEach ((entry :: later).map Entry.kind)
          ((entry :: later).flatMap Entry.bytes ++ rest) =
        ⟨entry.field, .ok entry.value, (later.flatMap Entry.bytes ++ rest).length⟩ ::
          readEach (later.map Entry.kind) (later.flatMap Entry.bytes ++ rest) := by
      rw [List.flatMap_cons, List.append_assoc, List.map_cons, Entry.kind, readEach, read]
    rw [step]
    refine ⟨.cons ⟨_, rfl⟩ returned, ?_⟩
    rw [List.flatMap_cons, List.append_assoc, List.map_cons, unread, List.foldl_cons, Entry.kind,
      read]
    exact left

namespace Layout

def entries {α : Type} : Layout α → α → List Entry
  | .nil, () => []
  | .cons field layout, (value, others) => ⟨field, value⟩ :: layout.entries others

theorem canonical_of_whole {layout : Layout α} {record : α}
    (whole : ∀ entry ∈ layout.entries record, entry.Whole) : layout.canonical record = record := by
  induction layout with
  | nil => rfl
  | cons field layout ih =>
    obtain ⟨value, others⟩ := record
    obtain ⟨here, there⟩ := List.forall_mem_cons.mp whole
    rw [canonical, Field.canonical_of_whole here, ih there]

end Layout

/-- How one more field is read off some bytes: the cursor moves from where it is towards their end
and not beyond. -/
structure ReadsOn (bytes : Bytes) (fields : List AnyField) {α : Type} (field : Field α) : Prop where
  onwards : cursor fields bytes ≤ cursor (fields ++ [⟨α, field⟩]) bytes
  inside : cursor (fields ++ [⟨α, field⟩]) bytes ≤ bytes.length
  reading : readEach (fields ++ [⟨α, field⟩]) bytes = readEach fields bytes ++
    [⟨field, (field.read (bytes.drop (cursor fields bytes))).1,
      bytes.length - cursor (fields ++ [⟨α, field⟩]) bytes⟩]
  /-- A reading that lacks bytes says how many are left. -/
  lacking : ∀ needed remaining,
    (field.read (bytes.drop (cursor fields bytes))).1 = .error (.truncated needed remaining) →
    remaining = bytes.length - cursor (fields ++ [⟨α, field⟩]) bytes ∧ remaining < needed
  /-- It has not moved the cursor if its field is taken in one piece. -/
  unmoved : ∀ needed remaining,
    (field.read (bytes.drop (cursor fields bytes))).1 = .error (.truncated needed remaining) →
    ∀ width, field.width? = some width →
      needed = width ∧ cursor (fields ++ [⟨α, field⟩]) bytes = cursor fields bytes

private theorem readsOn (bytes : Bytes) (fields : List AnyField) {α : Type} (field : Field α) :
    ReadsOn bytes fields field where
  onwards := cursor_le_append _ _ _
  inside := cursor_le _ _
  reading := readEach_concat fields field bytes
  lacking := by
    intro needed remaining short
    obtain ⟨left, fewer, -⟩ := cursor_of_truncated short
    exact ⟨left, fewer⟩
  unmoved := by
    intro needed remaining short
    exact (cursor_of_truncated short).2.2

/-- How fields are read off some bytes, or off what was written in front of these. -/
structure ReadsWhereWritten (bytes : Bytes) : Prop where
  written : ∀ (opcode : UInt8) (entries : List Entry), (∀ entry ∈ entries, entry.Whole) →
    ∃ written, ((Draft.start opcode).putAll entries).finish.1 = opcode :: written ∧
      List.Forall₂ Entry.ReturnedBy entries
        (readEach (entries.map Entry.kind) (written ++ bytes)) ∧
      unread (entries.map Entry.kind) (written ++ bytes) = bytes
  records : ∀ {α : Type} (layout : Layout α) (record : α),
    (∀ entry ∈ layout.entries record, entry.Whole) →
      layout.read (layout.write record ++ bytes) = (.ok record, bytes)
  moves : ∀ (fields : List AnyField) {α : Type} (field : Field α), ReadsOn bytes fields field
  /-- The reading of a text may have passed the length when it lacks bytes. -/
  text : ∀ needed remaining, (Field.text.read bytes).1 = .error (.truncated needed remaining) →
    needed = 1 ∧ (Field.text.read bytes).2 = bytes ∨
      needed = 16 ∧ (Field.text.read bytes).2 = bytes.drop 1

/-- Fields that are written one after another, each with a value that it can hold whole, are read
back with these values, and what follows them is left; so is the record of a layout. Whatever is
read from whatever bytes, the cursor moves from where it is towards their end and not beyond. A
reading that lacks bytes says how many are left, and it has not moved the cursor if its field is
taken in one piece; the reading of a text may have passed the length. -/
theorem fields_are_read_where_written (bytes : Bytes) : ReadsWhereWritten bytes where
  written := by
    intro opcode entries whole
    exact ⟨_, Draft.bytes_putAll (Draft.start opcode) entries, readEach_entries whole bytes⟩
  records := by
    intro α layout record whole
    rw [layout.read_write, Layout.canonical_of_whole whole]
  moves fields _ field := readsOn bytes fields field
  text _ _ := Field.truncated_text

/-- A negative number, a flag, two bytes and a text are read back with a byte behind them. Of three
bytes a number takes two, and the next one, which needs four, is told of the one that is left. -/
theorem four_fields_are_read_back :
    let entries := [Entry.mk .i16 (-2), ⟨.flag, true⟩, ⟨.octets 2, ⟨[1, 2], rfl⟩⟩, ⟨.text, "Tür"⟩]
    let written := [0xFE, 0xFF, 1, 1, 2, 4, 84, 195, 188, 114] ++ List.replicate 12 0
    (∀ entry ∈ entries, entry.Whole) ∧
      ((Draft.start 6).putAll entries).finish.1 = 6 :: written ∧
      List.Forall₂ Entry.ReturnedBy entries (readEach (entries.map Entry.kind) (written ++ [9])) ∧
      unread (entries.map Entry.kind) (written ++ [9]) = [9] ∧
      (Field.u32.read ([1, 0, 7].drop (cursor [⟨_, .u16⟩] [1, 0, 7]))).1 =
        .error (.truncated 4 1) ∧
      cursor [⟨_, .u16⟩, ⟨_, .u32⟩] [1, 0, 7] = cursor [⟨_, .u16⟩] [1, 0, 7] := by
  intro entries written
  have whole : ∀ entry ∈ entries, entry.Whole := by
    simp [entries, Entry.Whole, Field.Whole]
    decide
  obtain ⟨bytes, put, returned, left⟩ :=
    (fields_are_read_where_written [9]).written 6 entries whole
  have same : bytes = written := (List.cons.inj put).2.symm
  rw [same] at returned left
  have failed : (Field.u32.read ([1, 0, 7].drop (cursor [⟨_, .u16⟩] [1, 0, 7]))).1 =
      .error (.truncated 4 1) := by decide
  have moves := (fields_are_read_where_written [1, 0, 7]).moves [⟨_, .u16⟩] .u32
  exact ⟨whole, same ▸ put, returned, left, failed, (moves.unmoved 4 1 failed 4 rfl).2⟩

end ButtonGateway.Wire
