import ButtonGateway.Proofs.Text.Boundary
import ButtonGateway.Proofs.Wire.Field

namespace ButtonGateway.Wire.Field

private theorem length_write_text (value : String) : (text.write value).length = 17 := by
  have fits := length_cut_le value
  rw [write, List.length_append, List.length_cons, List.length_replicate, Nat.add_right_comm,
    Nat.add_sub_of_le fits]
  rfl

/-- A text is written as the place where it is cut, the bytes in front of that place, and zeros. -/
theorem write_text (value : String) :
    let place := Text.stepBack value (min (Text.utf8 value).length 16)
    text.write value = UInt8.ofNat place ::
      ((Text.utf8 value).take place ++ List.replicate (16 - place) 0) := by
  intro place
  have within : place ≤ (Text.utf8 value).length :=
    (Text.stepBack_le value _).trans (Nat.min_le_left _ _)
  have spelled : Text.utf8 (Text.clip textWidth value) = (Text.utf8 value).take place :=
    Text.utf8_clip 16 value
  rw [write, spelled, List.length_take_of_le within]
  rfl

/-- Seventeen bytes are always read, and of those behind the length only as many as it says. -/
theorem read_text (length : UInt8) (block : Octets 16) (rest : Bytes) :
    text.read (length :: block.val ++ rest) =
      (.ok (Text.decode (block.val.take (min length.toNat 16))), rest) :=
  text.read_eq_ok_iff.mpr ⟨_, ⟨length, block.val, rfl, block.property, rfl⟩, rfl⟩

/-- A text is written in seventeen bytes: the place of the last boundary between characters that is
within sixteen bytes, the bytes in front of it and zeros. They are read back as the longest
beginning of the text that holds whole characters, zeros among them, and takes at most sixteen
bytes; what follows them is left. Any seventeen bytes are read, and those that agree in the length,
as far as it counts, and in so many bytes behind it are read alike. What is written for a text that
was read, which may be longer than the field, is read as a text for which the same is written; and
it is what was read exactly if that was tidy. -/
theorem texts_are_cut_to_their_field :
    (∀ value : String,
      let place := Text.stepBack value (min (Text.utf8 value).length 16)
      text.write value = UInt8.ofNat place ::
          ((Text.utf8 value).take place ++ List.replicate (16 - place) 0) ∧
        (text.write value).length = 17 ∧
        ∃ short, Text.LongestBeginning 16 value short ∧
          Text.utf8 short = (Text.utf8 value).take place ∧
          ∀ rest, text.read (text.write value ++ rest) = (.ok short, rest)) ∧
    (∀ (length other : UInt8) (block others : Octets 16),
      min length.toNat 16 = min other.toNat 16 →
      block.val.take (min length.toNat 16) = others.val.take (min length.toNat 16) →
      ∃ value,
        (∀ rest, text.read (length :: block.val ++ rest) = (.ok value, rest)) ∧
          ∀ rest, text.read (other :: others.val ++ rest) = (.ok value, rest)) ∧
    ∀ (length : UInt8) (block : Octets 16), ∃ value short,
      text.read (length :: block.val) = (.ok value, []) ∧
        text.read (text.write value) = (.ok short, []) ∧
        text.write short = text.write value ∧
        (text.write value = length :: block.val ↔ text.Tidy (length :: block.val)) := by
  refine ⟨?_, ?_, ?_⟩
  · intro value place
    exact ⟨write_text value, length_write_text value, Text.clip 16 value,
      Text.longestBeginning_clip 16 value, Text.utf8_clip 16 value, text.read_write value⟩
  · intro length other block others capped same
    refine ⟨_, read_text length block, ?_⟩
    intro rest
    rw [read_text, ← capped, same]
  · intro length block
    have read := read_text length block []
    -- The text may be too long for the field now, so that its cut form is read back.
    have again := text.read_write (Text.decode (block.val.take (min length.toNat 16))) []
    rw [List.append_nil] at read again
    refine ⟨_, _, read, again, text.write_canonical _, ?_⟩
    exact write_eq_iff_tidy ⟨length, block.val, rfl, block.property, rfl⟩

/-- A text of eighteen bytes, one of them zero, loses its last character. Bytes behind the three
that spell a text do not count. Sixteen bytes that spell nothing are read as so many replacement
characters, also if the length says more; that text takes forty-eight bytes, of which the field
holds fifteen. -/
theorem broken_text_is_cut_again :
    let marked : Octets 16 := ⟨[114, 101, 100] ++ List.replicate 13 88, rfl⟩
    let padded : Octets 16 := ⟨[114, 101, 100] ++ List.replicate 13 0, rfl⟩
    let block : Octets 16 := ⟨List.replicate 16 0xFF, rfl⟩
    let broken := String.ofList (List.replicate 16 Text.replacement)
    let cut := String.ofList (List.replicate 5 Text.replacement)
    text.read (text.write "a\x00b€€€€€" ++ [7]) = (.ok "a\x00b€€€€", [7]) ∧
      marked.val.take (min (3 : UInt8).toNat 16) = padded.val.take (min (3 : UInt8).toNat 16) ∧
      text.read (3 :: marked.val) = (.ok "red", []) ∧
      text.read (3 :: padded.val) = (.ok "red", []) ∧
      min (16 : UInt8).toNat 16 = min (200 : UInt8).toNat 16 ∧
      text.read (16 :: block.val) = (.ok broken, []) ∧
      text.read (200 :: block.val) = (.ok broken, []) ∧
      text.read (text.write broken) = (.ok cut, []) ∧
      text.write cut = text.write broken ∧
      text.write broken ≠ 16 :: block.val := by
  intro marked padded block broken cut
  obtain ⟨writes, agree, again⟩ := texts_are_cut_to_their_field
  have clipped : Text.clip 16 "a\x00b€€€€€" = "a\x00b€€€€" := by decide
  obtain ⟨-, -, short, longest, -, back⟩ := writes "a\x00b€€€€€"
  rw [(Text.longestBeginning_iff.mp longest).trans clipped] at back
  have front : marked.val.take (min (3 : UInt8).toNat 16) =
      padded.val.take (min (3 : UInt8).toNat 16) := by decide
  have red : text.read (3 :: marked.val) = (.ok "red", []) := by decide +kernel
  obtain ⟨value, read, unmarked⟩ := agree 3 3 marked padded rfl front
  cases red.symm.trans (read [])
  have capped : min (16 : UInt8).toNat 16 = min (200 : UInt8).toNat 16 := by decide
  have known : text.read (16 :: block.val) = (.ok broken, []) := by decide +kernel
  obtain ⟨value, read, alike⟩ := agree 16 200 block block capped rfl
  cases known.symm.trans (read [])
  obtain ⟨value, last, read, reread, same, -⟩ := again 16 block
  cases known.symm.trans read
  have shortened : text.read (text.write broken) = (.ok cut, []) := by decide +kernel
  cases shortened.symm.trans reread
  have untidy : text.write broken ≠ 16 :: block.val := by decide
  exact ⟨back [7], front, red, unmarked [], capped, known, alike [], shortened, same, untidy⟩

end ButtonGateway.Wire.Field
