import Mathlib.Data.List.DropRight
import ButtonGateway.Text.Split
/-!
Pieces between marks. They are those of the library's own splitting, so that a text put together
with marks is taken apart as it was put together.
-/
namespace ButtonGateway.Text

theorem pieces_eq_splitOnP (stops : Char → Bool) (chars : List Char) :
    pieces stops chars = chars.splitOnP stops := by
  induction chars with
  | nil => rfl
  | cons char rest ih =>
    rw [pieces, ih, List.splitOnP_cons_eq_if_modifyHead]
    by_cases stop : stops char = true
    · rw [if_pos stop, if_pos stop]
    · rw [if_neg stop, if_neg stop]
      cases found : rest.splitOnP stops with
      | nil => exact absurd found (List.splitOnP_ne_nil stops rest)
      | cons piece others => rfl

theorem pieces_eq_splitOn (mark : Char) (chars : List Char) :
    pieces (· == mark) chars = chars.splitOn mark :=
  pieces_eq_splitOnP (· == mark) chars

/-- No character that divides the pieces stands in one of them. -/
theorem not_stops_of_mem_pieces {stops : Char → Bool} {chars piece : List Char}
    (member : piece ∈ pieces stops chars) {char : Char} (inside : char ∈ piece) :
    stops char = false := by
  induction chars generalizing piece with
  | nil =>
    rw [pieces, List.mem_singleton] at member
    cases member ▸ inside
  | cons first rest ih =>
    rw [pieces] at member
    split at member
    · rcases List.mem_cons.mp member with rfl | later
      · cases inside
      · exact ih later inside
    · rename_i going
      cases found : pieces stops rest with
      | nil => exact absurd found (pieces_ne_nil stops rest)
      | cons next others =>
        rw [found] at member ih
        rcases List.mem_cons.mp member with rfl | later
        · rcases List.mem_cons.mp inside with rfl | behind
          · exact Bool.eq_false_iff.mpr going
          · exact ih List.mem_cons_self behind
        · exact ih (List.mem_cons_of_mem next later) inside

theorem not_mem_of_mem_splitOn {mark : Char} {chars piece : List Char}
    (member : piece ∈ chars.splitOn mark) : mark ∉ piece := by
  intro inside
  rw [← pieces_eq_splitOn] at member
  exact absurd (not_stops_of_mem_pieces member inside) (by simp)

/-- Pieces put together with marks are taken apart into the same pieces, if no mark is in them. -/
theorem splitOn_eq_iff {mark : Char} {chars : List Char} {pieces : List (List Char)} :
    chars.splitOn mark = pieces ↔
      pieces ≠ [] ∧ (∀ piece ∈ pieces, mark ∉ piece) ∧ List.intercalate [mark] pieces = chars := by
  constructor
  · rintro rfl
    exact ⟨List.splitOn_ne_nil mark chars, fun _ => not_mem_of_mem_splitOn,
      List.intercalate_splitOn mark⟩
  · rintro ⟨some, free, rfl⟩
    exact List.splitOn_intercalate mark free some

/-- A change of characters that makes and takes away no marks can be made piece by piece. -/
theorem splitOn_map {mark : Char} {change : Char → Char}
    (kept : ∀ char, change char = mark ↔ char = mark) (chars : List Char) :
    (chars.map change).splitOn mark = (chars.splitOn mark).map (·.map change) := by
  induction chars with
  | nil => rfl
  | cons char rest ih =>
    have same : (change char == mark) = (char == mark) := by
      rw [Bool.eq_iff_iff, beq_iff_eq, beq_iff_eq]
      exact kept char
    rw [List.map_cons, List.splitOn_cons_eq_if_modifyHead, List.splitOn_cons_eq_if_modifyHead, ih,
      same]
    split
    · rfl
    · cases rest.splitOn mark <;> rfl

/-- Every character but the mark stands in some piece. -/
theorem exists_piece_of_mem {mark char : Char} (other : char ≠ mark) {chars : List Char}
    (member : char ∈ chars) : ∃ piece ∈ chars.splitOn mark, char ∈ piece := by
  induction chars with
  | nil => cases member
  | cons first rest ih =>
    rw [List.splitOn_cons_eq_if_modifyHead]
    by_cases stop : (first == mark) = true
    · rw [if_pos stop]
      rcases List.mem_cons.mp member with rfl | later
      · exact absurd (eq_of_beq stop) other
      · obtain ⟨piece, present, inside⟩ := ih later
        exact ⟨piece, List.mem_cons_of_mem [] present, inside⟩
    · rw [if_neg stop]
      cases found : rest.splitOn mark with
      | nil => exact absurd found (List.splitOn_ne_nil mark rest)
      | cons piece others =>
        rw [List.modifyHead_cons]
        rcases List.mem_cons.mp member with rfl | later
        · exact ⟨char :: piece, List.mem_cons_self, List.mem_cons_self⟩
        · obtain ⟨other, present, inside⟩ := ih later
          rw [found] at present
          rcases List.mem_cons.mp present with rfl | further
          · exact ⟨first :: other, List.mem_cons_self, List.mem_cons_of_mem first inside⟩
          · exact ⟨other, List.mem_cons_of_mem _ further, inside⟩

/-- The last mark is the one that no other follows. -/
theorem splitLast?_eq_some_iff {mark : Char} {chars before behind : List Char} :
    splitLast? mark chars = some (before, behind) ↔
      chars = before ++ mark :: behind ∧ mark ∉ behind := by
  constructor
  · exact eq_of_splitLast?
  · rintro ⟨rfl, last⟩
    induction before with
    | nil => rw [List.nil_append, splitLast?, splitLast?_eq_none_iff.mpr last, if_pos rfl]
    | cons char rest ih => rw [List.cons_append, splitLast?, ih]

theorem dropTrailing_append {mark : Char} {chars : List Char} (absent : mark ∉ chars)
    (count : Nat) : dropTrailing mark (chars ++ List.replicate count mark) = chars := by
  have marks : ∀ char ∈ List.replicate count mark, (char == mark) = true := by
    intro char member
    exact beq_iff_eq.mpr (List.eq_of_mem_replicate member)
  have others : chars.reverse.dropWhile (· == mark) = chars.reverse := by
    rw [List.dropWhile_eq_self_iff]
    intro some first
    have member := List.getElem_mem (l := chars.reverse) some
    rw [eq_of_beq first, List.mem_reverse] at member
    exact absent member
  rw [dropTrailing, List.reverse_append, List.reverse_replicate,
    List.dropWhile_append_of_pos marks, others, List.reverse_reverse]

theorem exists_dropTrailing (mark : Char) (chars : List Char) :
    ∃ count, chars = dropTrailing mark chars ++ List.replicate count mark := by
  refine ⟨(chars.rtakeWhile (· == mark)).length, ?_⟩
  have marks : chars.rtakeWhile (· == mark) =
      List.replicate (chars.rtakeWhile (· == mark)).length mark := by
    refine List.eq_replicate_iff.mpr ⟨rfl, ?_⟩
    intro char member
    have taken := List.mem_rtakeWhile_imp member
    exact eq_of_beq taken
  rw [← marks]
  exact List.rdropWhile_append_rtakeWhile.symm

end ButtonGateway.Text
