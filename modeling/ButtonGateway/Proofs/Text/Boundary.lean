import ButtonGateway.Proofs.Text.Utf8
import Mathlib.Data.List.Infix

namespace ButtonGateway.Text

/-- A place between two characters of a text, or at one of its ends. -/
def IsBoundary (text : String) (place : Nat) : Prop := String.Pos.Raw.IsValid text ⟨place⟩

instance (text : String) (place : Nat) : Decidable (IsBoundary text place) :=
  inferInstanceAs (Decidable (String.Pos.Raw.IsValid text ⟨place⟩))

/-- Steps back from a place until it is a boundary. -/
def stepBack (text : String) : Nat → Nat
  | 0 => 0
  | place + 1 => if IsBoundary text (place + 1) then place + 1 else stepBack text place

theorem stepBack_le (text : String) (place : Nat) : stepBack text place ≤ place := by
  induction place with
  | zero => exact Nat.le_refl 0
  | succ place ih =>
    unfold stepBack
    split
    · exact Nat.le_refl _
    · exact Nat.le_succ_of_le ih

private theorem isBoundary_stepBack (text : String) (place : Nat) :
    IsBoundary text (stepBack text place) := by
  induction place with
  | zero => exact String.Pos.Raw.isValid_zero
  | succ place ih =>
    unfold stepBack
    split
    · assumption
    · exact ih

/-- No boundary is passed over. -/
theorem le_stepBack {text : String} {place other : Nat} (boundary : IsBoundary text other)
    (before : other ≤ place) : other ≤ stepBack text place := by
  induction place with
  | zero => exact before
  | succ place ih =>
    unfold stepBack
    split
    · exact before
    · rename_i inside
      have different : other ≠ place + 1 := by
        rintro rfl
        exact inside boundary
      exact ih (by omega)

private theorem utf8Chars_append (first second : List Char) :
    utf8Chars (first ++ second) = utf8Chars first ++ utf8Chars second := List.flatMap_append

private theorem utf8ByteSize_ofList (chars : List Char) :
    (String.ofList chars).utf8ByteSize = (utf8Chars chars).length := by
  rw [← String.size_toByteArray, String.toByteArray_ofList, List.utf8Encode,
    List.size_toByteArray, utf8Chars]

/-- A boundary is where a beginning of whole characters ends. -/
theorem isBoundary_iff {text : String} {place : Nat} :
    IsBoundary text place ↔ ∃ start, start <+: text.toList ∧ (utf8Chars start).length = place := by
  rw [IsBoundary, String.Pos.Raw.isValid_iff_exists_take_toList]
  constructor
  · rintro ⟨count, rfl⟩
    exact ⟨_, List.take_prefix count text.toList, (utf8ByteSize_ofList _).symm⟩
  · rintro ⟨start, begins, rfl⟩
    refine ⟨start.length, ?_⟩
    rw [← List.prefix_iff_eq_take.mp begins]
    exact (utf8ByteSize_ofList start).symm

/-- Of two beginnings of whole characters, the one with more bytes goes further. -/
theorem prefix_of_length_le {first second chars : List Char} (one : first <+: chars)
    (two : second <+: chars) (shorter : (utf8Chars first).length ≤ (utf8Chars second).length) :
    first <+: second := by
  rcases List.prefix_or_prefix_of_prefix one two with within | ⟨more, rfl⟩
  · exact within
  · -- Otherwise the first goes further, and what it has more would take no bytes.
    cases more with
    | nil => simp
    | cons char rest =>
      have size := char.utf8Size_pos
      rw [utf8Chars_append, List.length_append, length_utf8Chars_cons] at shorter
      omega

/-- The bytes of a beginning begin the bytes. -/
theorem utf8Chars_isPrefix {first second : List Char} (begins : first <+: second) :
    utf8Chars first <+: utf8Chars second := begins.flatMap String.utf8EncodeChar

/-- Stepping back from the limit, or from the end of a text that is within it, leads to where the
cut text ends. -/
theorem utf8_clip (limit : Nat) (text : String) :
    utf8 (clip limit text) =
      (utf8 text).take (stepBack text (min (utf8 text).length limit)) := by
  obtain ⟨start, begins, length⟩ :=
    isBoundary_iff.mp (isBoundary_stepBack text (min (utf8 text).length limit))
  have within := stepBack_le text (min (utf8 text).length limit)
  have cut : LongestBeginning limit text (String.ofList start) := by
    refine ⟨?_, ?_, ?_⟩
    · rwa [String.toList_ofList]
    · rw [utf8, String.toList_ofList, length]
      exact within.trans (Nat.min_le_right _ _)
    · intro other beginning fits
      have boundary : IsBoundary text (utf8 other).length := isBoundary_iff.mpr ⟨_, beginning, rfl⟩
      have inside := (utf8Chars_isPrefix beginning).length_le
      have reached := le_stepBack boundary (Nat.le_min.mpr ⟨inside, fits⟩)
      rw [String.toList_ofList]
      exact prefix_of_length_le beginning begins (reached.trans_eq length.symm)
  have front := List.prefix_iff_eq_take.mp (utf8Chars_isPrefix begins)
  rw [← longestBeginning_iff.mp cut, utf8, String.toList_ofList, front, length, utf8]

end ButtonGateway.Text
