import ButtonGateway.Proofs.Wire.Field
import ButtonGateway.Wire.Frame

namespace ButtonGateway.Wire.Frame

/-- How long a body can be for its length to fit in front of it. -/
def lengthBound : Nat := 256 ^ 2

/-- The bytes of a frame that has not come to its end. -/
def Incomplete (bytes : Bytes) : Prop :=
  ∃ body missing, body.length < lengthBound ∧ missing ≠ [] ∧ bytes ++ missing = framed body

/-- A stream consists of the frames of some bodies and the bytes of an incomplete frame. -/
structure Splits (stream : Bytes) (bodies : List Bytes) (rest : Bytes) : Prop where
  whole : stream = bodies.flatMap framed ++ rest
  short : ∀ body ∈ bodies, body.length < lengthBound
  incomplete : Incomplete rest

theorem next?_framed {body : Bytes} (short : body.length < lengthBound) (rest : Bytes) :
    next? (framed body ++ rest) = some (body, rest) := by
  have length : ofLittleEndian (toLittleEndian 2 body.length) = body.length := by
    rw [ofLittleEndian_toLittleEndian]
    exact Nat.mod_eq_of_lt short
  obtain ⟨low, high, digits⟩ : ∃ low high, toLittleEndian 2 body.length = [low, high] :=
    ⟨_, _, rfl⟩
  rw [digits] at length
  unfold framed
  rw [digits]
  simp [next?, length]

private theorem framed_eq_of_length {body : Bytes} {low high : UInt8}
    (length : body.length = ofLittleEndian [low, high]) : framed body = low :: high :: body := by
  have digits := toLittleEndian_ofLittleEndian [low, high]
  simp only [List.length_cons, List.length_nil] at digits
  rw [framed, length, digits]
  rfl

theorem framed_of_next? {stream body rest : Bytes} (found : next? stream = some (body, rest)) :
    body.length < lengthBound ∧ stream = framed body ++ rest := by
  match stream with
  | [] | [_] => simp [next?] at found
  | low :: high :: tail =>
    simp only [next?] at found
    split at found
    · rename_i enough
      obtain ⟨rfl, rfl⟩ := Prod.mk.inj (Option.some.inj found)
      have length : (tail.take (ofLittleEndian [low, high])).length =
          ofLittleEndian [low, high] := List.length_take_of_le enough
      constructor
      · rw [length]
        exact ofLittleEndian_lt [low, high]
      · rw [framed_eq_of_length length]
        simp
    · cases found

/-- Bytes behind a length that they do not fill are incomplete. -/
theorem incomplete_of_length_lt {low high : UInt8} {tail : Bytes}
    (missing : tail.length < ofLittleEndian [low, high]) : Incomplete (low :: high :: tail) := by
  let filling : Bytes := List.replicate (ofLittleEndian [low, high] - tail.length) 0
  have length : (tail ++ filling).length = ofLittleEndian [low, high] := by
    simp only [filling, List.length_append, List.length_replicate]
    omega
  refine ⟨tail ++ filling, filling, ?_, ?_, ?_⟩
  · rw [length]
    exact ofLittleEndian_lt [low, high]
  · intro none
    have filled := List.append_nil tail ▸ none ▸ length
    omega
  · rw [framed_eq_of_length length]
    rfl

theorem incomplete_of_next?_eq_none {bytes : Bytes} (stuck : next? bytes = none) :
    Incomplete bytes := by
  match bytes with
  | [] => exact ⟨[], [0, 0], by decide, by decide, rfl⟩
  | [low] =>
    obtain ⟨body, missing, short, more, whole⟩ : Incomplete [low, 1] := by
      apply incomplete_of_length_lt
      simp only [ofLittleEndian, List.length_nil, UInt8.reduceToNat]
      omega
    exact ⟨body, 1 :: missing, short, List.cons_ne_nil 1 missing, whole⟩
  | low :: high :: tail =>
    simp only [next?] at stuck
    split at stuck
    · cases stuck
    · rename_i missing
      exact incomplete_of_length_lt (Nat.lt_of_not_le missing)

theorem next?_of_incomplete {bytes : Bytes} (incomplete : Incomplete bytes) :
    next? bytes = none := by
  obtain ⟨body, missing, short, more, whole⟩ := incomplete
  cases found : next? bytes with
  | none => rfl
  | some parts =>
    obtain ⟨first, rest⟩ := parts
    obtain ⟨firstShort, same⟩ := framed_of_next? found
    have other := next?_framed firstShort (rest ++ missing)
    rw [← List.append_assoc, ← same, whole] at other
    have complete := next?_framed short []
    rw [List.append_nil] at complete
    rw [complete] at other
    cases Prod.mk.inj (Option.some.inj other) with
    | intro _ rest =>
      exact absurd (List.append_eq_nil_iff.mp rest.symm).2 more

theorem split_of_next? {stream body rest : Bytes} (found : next? stream = some (body, rest)) :
    split stream = (body :: (split rest).1, (split rest).2) := by
  rw [split]
  split
  · rename_i same
    cases found.symm.trans same
    rfl
  · rename_i stuck
    cases found.symm.trans stuck

theorem split_of_stuck {stream : Bytes} (stuck : next? stream = none) :
    split stream = ([], stream) := by
  rw [split]
  split
  · rename_i found
    cases stuck.symm.trans found
  · rfl

theorem splits_split (stream : Bytes) : Splits stream (split stream).1 (split stream).2 := by
  fun_induction split stream with
  | case1 stream body rest found others ih =>
    obtain ⟨short, same⟩ := framed_of_next? found
    refine ⟨?_, ?_, ih.incomplete⟩
    · rw [List.flatMap_cons, List.append_assoc, ← ih.whole]
      exact same
    · intro other member
      rcases List.mem_cons.mp member with rfl | later
      · exact short
      · exact ih.short other later
  | case2 stream stuck => exact ⟨rfl, by simp, incomplete_of_next?_eq_none stuck⟩

/-- The reader splits a stream in the only way there is. -/
theorem split_eq_iff {stream rest : Bytes} {bodies : List Bytes} :
    split stream = (bodies, rest) ↔ Splits stream bodies rest := by
  constructor
  · intro same
    have splits := splits_split stream
    rwa [same] at splits
  · intro splits
    induction bodies generalizing stream with
    | nil =>
      rw [splits.whole]
      exact split_of_stuck (next?_of_incomplete splits.incomplete)
    | cons body others ih =>
      have first := next?_framed (splits.short body List.mem_cons_self)
        (others.flatMap framed ++ rest)
      have further : Splits (others.flatMap framed ++ rest) others rest :=
        ⟨rfl, fun other member => splits.short other (List.mem_cons_of_mem body member),
          splits.incomplete⟩
      rw [splits.whole, List.flatMap_cons, List.append_assoc, split_of_next? first, ih further]

/-- More bytes complete the frame that was begun and bring further ones. -/
theorem Splits.extend {stream added rest last : Bytes} {bodies more : List Bytes}
    (before : Splits stream bodies rest) (after : Splits (rest ++ added) more last) :
    Splits (stream ++ added) (bodies ++ more) last := by
  refine ⟨?_, ?_, after.incomplete⟩
  · rw [before.whole, List.append_assoc, after.whole, List.flatMap_append, List.append_assoc]
  · intro body member
    rcases List.mem_append.mp member with earlier | later
    · exact before.short body earlier
    · exact after.short body later

end ButtonGateway.Wire.Frame
