import ButtonGateway.Notice
import ButtonGateway.Proofs.Text.Utf8
import ButtonGateway.Proofs.Wire.Extent

namespace ButtonGateway

namespace Text

/-- Only the zero character is spelled with a zero byte. -/
theorem ne_zero_of_mem_utf8EncodeChar {char : Char} (other : char ≠ '\x00') :
    ∀ byte ∈ String.utf8EncodeChar char, byte ≠ 0 := by
  have positive : char.val.toNat ≠ 0 := by
    intro zero
    exact other (Char.ext (UInt32.toNat_inj.mp zero))
  have filled {number : Nat} (inside : 0 < number ∧ number < 256) : UInt8.ofNat number ≠ 0 := by
    intro zero
    have same := congrArg UInt8.toNat zero
    rw [UInt8.toNat_ofNat_of_lt' inside.2] at same
    exact Nat.ne_of_gt inside.1 same
  unfold String.utf8EncodeChar
  dsimp only
  -- A lone byte is the character's number; in longer spellings every byte carries a mark.
  split
  · simp only [List.forall_mem_singleton]
    exact filled (by omega)
  · split
    · simp only [List.forall_mem_cons, List.not_mem_nil, false_imp_iff, implies_true, and_true]
      exact ⟨filled (by omega), filled (by omega)⟩
    · split
      · simp only [List.forall_mem_cons, List.not_mem_nil, false_imp_iff, implies_true, and_true]
        exact ⟨filled (by omega), filled (by omega), filled (by omega)⟩
      · simp only [List.forall_mem_cons, List.not_mem_nil, false_imp_iff, implies_true, and_true]
        exact ⟨filled (by omega), filled (by omega), filled (by omega), filled (by omega)⟩

/-- Bytes up to the first zero are those of the characters up to the first zero character, if only
zeros follow. -/
theorem takeWhile_utf8Chars (chars : List Char) (padding : Nat) :
    (utf8Chars chars ++ List.replicate padding 0).takeWhile (· != 0) =
      utf8Chars (chars.takeWhile (· != '\x00')) := by
  induction chars with
  | nil => cases padding <;> rfl
  | cons char rest ih =>
    rw [utf8Chars_cons, List.append_assoc]
    by_cases zero : char = '\x00'
    · rw [zero]
      rfl
    · have kept : (char != '\x00') = true := bne_iff_ne.mpr zero
      have filled : ∀ byte ∈ String.utf8EncodeChar char, (byte != 0) = true := by
        intro byte member
        exact bne_iff_ne.mpr (ne_zero_of_mem_utf8EncodeChar zero byte member)
      rw [List.takeWhile_append_of_pos filled, ih,
        List.takeWhile_cons_of_pos (p := fun char => char != '\x00') kept, utf8Chars_cons]

end Text

private theorem Wire.Octets.padded_of_length_le {count : Nat} {bytes : Wire.Bytes}
    (fits : bytes.length ≤ count) :
    (padded count bytes).val = bytes ++ List.replicate (count - bytes.length) 0 := by
  change (bytes ++ List.replicate count 0).take count = _
  rw [List.take_append, List.take_of_length_le fits, List.take_replicate,
    Nat.min_eq_left (Nat.sub_le count bytes.length)]

namespace Notice

open Wire

private theorem spelled_ofText (kind : NoticeKind) (status slot : UInt8) (text : String) :
    (ofText kind status slot text).spelled.val =
      Text.utf8 (Text.clip textWidth text) ++
        List.replicate (textWidth - (Text.utf8 (Text.clip textWidth text)).length) 0 :=
  Octets.padded_of_length_le (Text.longestBeginning_clip textWidth text).fits

theorem toList_text_ofText (kind : NoticeKind) (status slot : UInt8) (text : String) :
    (ofText kind status slot text).text.toList =
      (Text.clip textWidth text).toList.takeWhile (· != '\x00') := by
  rw [Notice.text, spelled_ofText, Text.utf8, Text.takeWhile_utf8Chars, Text.decode,
    Text.decodeChars_utf8Chars, String.toList_ofList]

private theorem exists_parts (record : Octets 32) :
    ∃ code status slot, ∃ spelled : Octets textWidth,
    ∃ last, record.val = code :: status :: slot :: (spelled.val ++ [last]) := by
  obtain ⟨bytes, size⟩ := record
  match bytes, size with
  | code :: status :: slot :: behind, size =>
    have length : behind.length = textWidth + 1 := by simpa [textWidth] using size
    have one : (behind.drop textWidth).length = 1 := by
      rw [List.length_drop, length, Nat.add_sub_cancel_left]
    obtain ⟨last, same⟩ := List.length_eq_one_iff.mp one
    have enough : textWidth ≤ behind.length := length ▸ Nat.le_succ textWidth
    refine ⟨code, status, slot, Octets.ofTake textWidth behind enough, last, ?_⟩
    rw [← same]
    exact congrArg (code :: status :: slot :: ·) (List.take_append_drop textWidth behind).symm

theorem ofRecord_of_parts {record : Octets 32} {code status slot last : UInt8}
    {spelled : Octets textWidth}
    (parts : record.val = code :: status :: slot :: (spelled.val ++ [last])) :
    ofRecord record =
      (Enumeration.ofCode code).map fun kind => ⟨kind, status, slot, spelled⟩ := by
  obtain ⟨bytes, size⟩ := record
  obtain rfl : bytes = _ := parts
  have text : (spelled.val ++ [last]).take textWidth = spelled.val :=
    List.take_left' spelled.property
  unfold ofRecord
  simp only [List.getElem_cons_zero, List.getElem_cons_succ, List.drop_succ_cons, List.drop_zero,
    text]
  cases (Enumeration.ofCode code : Except Fault NoticeKind) <;> rfl

private theorem ofRecord_record (notice : Notice) : ofRecord notice.record = .ok notice := by
  have kind : Enumeration.ofCode (Enumeration.code notice.kind) = .ok notice.kind :=
    Enumeration.ofCode_eq_ok_iff.mpr rfl
  rw [ofRecord_of_parts rfl, kind]
  rfl

/-- A notice of a record goes back into the same record, its last byte apart. -/
theorem record_of_ofRecord {record : Octets 32} {notice : Notice}
    (held : ofRecord record = .ok notice) : notice.record.val = record.val.set 31 0 := by
  obtain ⟨code, status, slot, spelled, last, parts⟩ := exists_parts record
  rw [ofRecord_of_parts parts] at held
  cases known : (Enumeration.ofCode code : Except Fault NoticeKind) with
  | error fault =>
    rw [known] at held
    cases held
  | ok kind =>
    rw [known] at held
    cases held
    have ended : (spelled.val ++ [last]).set textWidth 0 = spelled.val ++ [0] := by
      rw [List.set_append_right _ _ (Nat.le_of_eq spelled.property), spelled.property]
      rfl
    rw [parts, Notice.record, Enumeration.ofCode_eq_ok_iff.mp known]
    exact congrArg (code :: status :: slot :: ·) ended.symm

private theorem exists_ofRecord_iff (record : Octets 32) :
    (∃ notice, ofRecord record = .ok notice) ↔ ∃ code, record.val[0]? = some code ∧ code ≤ 4 := by
  obtain ⟨code, status, slot, spelled, last, parts⟩ := exists_parts record
  have few : code ≤ 4 ↔ code.toNat < (Enumeration.values : List NoticeKind).length := by
    rw [UInt8.le_iff_toNat_le]
    exact Nat.lt_succ_iff.symm
  rw [ofRecord_of_parts parts, parts]
  simp only [List.getElem?_cons_zero, Option.some.injEq, exists_eq_left', few]
  rw [← Enumeration.exists_ofCode_iff]
  cases (Enumeration.ofCode code : Except Fault NoticeKind) with
  | error fault => exact iff_of_false nofun nofun
  | ok kind => exact iff_of_true ⟨_, rfl⟩ ⟨kind, rfl⟩

private theorem record_ofText (kind : NoticeKind) (status slot : UInt8) (text : String) :
    (ofText kind status slot text).record.val = Enumeration.code kind :: status :: slot ::
      (Text.utf8 (Text.clip textWidth text) ++
        List.replicate (textWidth + 1 - (Text.utf8 (Text.clip textWidth text)).length) 0) := by
  have fits := (Text.longestBeginning_clip textWidth text).fits
  rw [Nat.succ_sub fits, List.replicate_succ', ← List.append_assoc,
    ← spelled_ofText kind status slot]
  rfl

/-- The last byte of a record is zero. -/
theorem last_record (notice : Notice) : notice.record.val[31]? = some 0 := by
  change (notice.spelled.val ++ [0])[textWidth]? = some 0
  rw [List.getElem?_append_right (Nat.le_of_eq notice.spelled.property), notice.spelled.property]
  rfl

/-- A notice made with a text keeps the longest beginning of it that fits, whose bytes stand in the
record with nothing but zeros behind them. It shows that beginning up to the first zero character,
so every character that it shows is one of the text. Its record brings it back. And a record holds a
notice exactly if its first byte is a known kind; of such a record the last byte is made zero, and
nothing more is lost by going on. -/
theorem records_hold_notices :
    (∀ kind status slot text, ∃ short, Text.LongestBeginning 28 text short ∧
      (ofText kind status slot text).record.val = Enumeration.code kind :: status :: slot ::
        (Text.utf8 short ++ List.replicate (29 - (Text.utf8 short).length) 0) ∧
      (ofText kind status slot text).record.val[3 + 28]? = some 0 ∧
      (ofText kind status slot text).text.toList = short.toList.takeWhile (· != '\x00') ∧
      (∀ char ∈ (ofText kind status slot text).text.toList, char ∈ text.toList) ∧
      ofRecord (ofText kind status slot text).record = .ok (ofText kind status slot text)) ∧
    (∀ record : Octets 32, (∃ notice, ofRecord record = .ok notice) ↔
      ∃ code, record.val[0]? = some code ∧ code ≤ 4) ∧
    ∀ record notice, ofRecord record = .ok notice →
      notice.record.val = record.val.set 31 0 ∧ ofRecord notice.record = .ok notice := by
  refine ⟨?_, exists_ofRecord_iff, ?_⟩
  · intro kind status slot text
    have cut := Text.longestBeginning_clip textWidth text
    refine ⟨Text.clip textWidth text, cut, ?_, ?_, ?_, ?_, ?_⟩
    · exact record_ofText kind status slot text
    · exact last_record _
    · exact toList_text_ofText kind status slot text
    · intro char member
      rw [toList_text_ofText] at member
      exact cut.begins.subset ((List.takeWhile_sublist _).subset member)
    · exact ofRecord_record _
  · intro record notice held
    exact ⟨record_of_ofRecord held, ofRecord_record notice⟩

/-- A record whose text is no text and does not end, and a text with a zero character inside. -/
theorem endless_record_is_ended :
    ∃ (record : Octets 32) (notice : Notice),
      record.val = 4 :: 5 :: 3 :: 0xC3 :: List.replicate 28 0x7A ∧
      ofRecord record = .ok notice ∧
      notice.record.val = 4 :: 5 :: 3 :: 0xC3 :: (List.replicate 27 0x7A ++ [0]) ∧
      ofRecord notice.record = .ok notice ∧
      'é' ∈ (ofText .upDown 5 3 "é\x00ü").text.toList ∧ 'é' ∈ "é\x00ü".toList := by
  let record : Octets 32 := ⟨4 :: 5 :: 3 :: 0xC3 :: List.replicate 28 0x7A, by decide⟩
  obtain ⟨made, accepted, again⟩ := records_hold_notices
  obtain ⟨notice, held⟩ := (accepted record).mpr ⟨4, rfl, by decide⟩
  obtain ⟨written, kept⟩ := again record notice held
  obtain ⟨_, -, -, -, -, shown, -⟩ := made .upDown 5 3 "é\x00ü"
  have first : 'é' ∈ (ofText .upDown 5 3 "é\x00ü").text.toList := by
    rw [toList_text_ofText]
    decide
  exact ⟨record, notice, rfl, held, written, kept, first, shown 'é' first⟩

end Notice

end ButtonGateway
