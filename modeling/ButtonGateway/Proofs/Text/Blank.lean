import Mathlib.Data.List.TakeWhile
import ButtonGateway.Proofs.Text.Split
import ButtonGateway.Text.Split

namespace ButtonGateway.Text

/-- Nothing but white space. -/
def Blank (chars : List Char) : Prop := ∀ char ∈ chars, isBlank char = true

/-- No white space at all. -/
def Solid (chars : List Char) : Prop := ∀ char ∈ chars, isBlank char = false

instance (chars : List Char) : Decidable (Solid chars) :=
  decidable_of_iff ((chars.all fun char => !isBlank char) = true) (by simp [Solid])

/-- The core of a text: what is left without the white space at both ends. -/
structure Trimmed (chars core : List Char) : Prop where
  around : ∃ front back, Blank front ∧ Blank back ∧ chars = front ++ core ++ back
  first : ∀ char, core.head? = some char → isBlank char = false
  last : ∀ char, core.getLast? = some char → isBlank char = false

/-- A row of words, with white space in front of them, between them and behind them. -/
inductive Worded : List Char → List (List Char) → Prop where
  | nil {gap : List Char} (blank : Blank gap) : Worded gap []
  | cons {gap word rest : List Char} {words : List (List Char)} (blank : Blank gap)
      (filled : word ≠ []) (solid : Solid word)
      (apart : ∀ char, rest.head? = some char → isBlank char = true) (others : Worded rest words) :
      Worded (gap ++ word ++ rest) (word :: words)

/-- No visible character of ASCII is white space. -/
theorem isBlank_of_visible {char : Char} (above : 0x20 < char.toNat) (below : char.toNat < 0x7F) :
    isBlank char = false := by
  unfold isBlank
  simp only [Bool.or_eq_false_iff, Bool.and_eq_false_iff, decide_eq_false_iff_not,
    beq_eq_false_iff_ne]
  omega

private theorem dropWhile_append_of_blank {front core : List Char} (blank : Blank front)
    (first : ∀ char, core.head? = some char → isBlank char = false) :
    (front ++ core).dropWhile isBlank = core := by
  rw [List.dropWhile_append_of_pos blank]
  cases core with
  | nil => rfl
  | cons char rest => exact List.dropWhile_cons_of_neg (Bool.eq_false_iff.mp (first char rfl))

/-- The white space at the front of a text ends before a character that is not blank. -/
theorem head_dropWhile {chars : List Char} {char : Char}
    (first : (chars.dropWhile isBlank).head? = some char) : isBlank char = false := by
  obtain ⟨rest, found⟩ := List.head?_eq_some_iff.mp first
  have some : 0 < (chars.dropWhile isBlank).length := by
    rw [found]
    exact Nat.zero_lt_succ _
  have stopped := List.dropWhile_get_zero_not isBlank chars some
  simpa [found] using stopped

private theorem blank_takeWhile (chars : List Char) : Blank (chars.takeWhile isBlank) :=
  fun _ member => List.mem_takeWhile_imp member

theorem trimmed_trim (chars : List Char) : Trimmed chars (trim chars) := by
  let rest := chars.dropWhile isBlank
  let back := (rest.reverse.takeWhile isBlank).reverse
  have behind : rest = trim chars ++ back := by
    rw [← List.reverse_inj, trim, List.reverse_append, List.reverse_reverse, List.reverse_reverse]
    exact List.takeWhile_append_dropWhile.symm
  have last : ∀ char, (trim chars).getLast? = some char → isBlank char = false := by
    intro char found
    rw [trim, List.getLast?_reverse] at found
    exact head_dropWhile found
  refine ⟨⟨chars.takeWhile isBlank, back, blank_takeWhile chars, ?_, ?_⟩, ?_, last⟩
  · intro char member
    exact blank_takeWhile _ char (List.mem_reverse.mp member)
  · rw [List.append_assoc, ← behind]
    exact List.takeWhile_append_dropWhile.symm
  · intro char found
    have first : rest.head? = some char := by
      rw [behind, List.head?_append, found]
      rfl
    exact head_dropWhile first

theorem trim_of_trimmed {chars core : List Char} (trimmed : Trimmed chars core) :
    trim chars = core := by
  obtain ⟨front, back, blank, blankToo, rfl⟩ := trimmed.around
  rw [trim, List.append_assoc]
  by_cases empty : core = []
  · have all : Blank (front ++ (core ++ back)) := by
      rw [empty]
      exact List.forall_mem_append.mpr ⟨blank, blankToo⟩
    rw [List.dropWhile_eq_nil_iff.mpr all, empty]
    rfl
  · have first : ∀ char, (core ++ back).head? = some char → isBlank char = false := by
      obtain ⟨begun, tail, rfl⟩ := List.exists_cons_of_ne_nil empty
      exact trimmed.first
    have last : ∀ char, core.reverse.head? = some char → isBlank char = false := by
      intro char found
      rw [List.head?_reverse] at found
      exact trimmed.last char found
    have behind : Blank back.reverse :=
      fun char member => blankToo char (List.mem_reverse.mp member)
    rw [dropWhile_append_of_blank blank first, List.reverse_append,
      dropWhile_append_of_blank behind last, List.reverse_reverse]

/-- A text has one core, and trimming finds it. -/
theorem trim_eq_iff {chars core : List Char} : trim chars = core ↔ Trimmed chars core := by
  constructor
  · rintro rfl
    exact trimmed_trim chars
  · exact trim_of_trimmed

theorem trim_eq_self {chars : List Char} (solid : Solid chars) : trim chars = chars := by
  refine trim_of_trimmed ⟨⟨[], [], by simp [Blank], by simp [Blank], by simp⟩, ?_, ?_⟩
  · intro char found
    exact solid char (List.mem_of_head? found)
  · intro char found
    exact solid char (List.mem_of_getLast? found)

private theorem words_append_of_blank {gap : List Char} (blank : Blank gap) (rest : List Char) :
    words (gap ++ rest) = words rest := by
  induction gap with
  | nil => rfl
  | cons char others ih =>
    obtain ⟨first, further⟩ := List.forall_mem_cons.mp blank
    rw [List.cons_append, words, pieces, if_pos first]
    exact ih further

/-- A word ends where white space begins, or with the line. -/
theorem words_append_of_solid {word rest : List Char} (filled : word ≠ []) (solid : Solid word)
    (apart : ∀ char, rest.head? = some char → isBlank char = true) :
    words (word ++ rest) = word :: words rest := by
  have kept (others : List (List Char)) : (word :: others).filter (fun piece => !piece.isEmpty) =
      word :: others.filter fun piece => !piece.isEmpty :=
    List.filter_cons_of_pos (by simpa using filled)
  cases rest with
  | nil =>
    rw [List.append_nil, words, pieces_eq_splitOnP, List.splitOnP_eq_singleton solid,
      kept]
    rfl
  | cons char others =>
    have blank := apart char rfl
    rw [words, pieces_eq_splitOnP, List.splitOnP_append_cons_of_forall_mem solid char blank,
      kept, ← pieces_eq_splitOnP, words, pieces, if_pos blank]
    rfl

theorem words_of_worded {line : List Char} {list : List (List Char)} (worded : Worded line list) :
    words line = list := by
  induction worded with
  | @nil gap blank =>
    rw [← List.append_nil gap, words_append_of_blank blank]
    rfl
  | cons blank filled solid apart _ ih =>
    rw [List.append_assoc, words_append_of_blank blank,
      words_append_of_solid filled solid apart, ih]

/-- One more character in front widens the white space there, lengthens the first word or makes a
new one. -/
theorem Worded.exists_cons {line : List Char} {list : List (List Char)} (worded : Worded line list)
    (char : Char) : ∃ longer, Worded (char :: line) longer := by
  by_cases blank : isBlank char = true
  · cases worded with
    | nil gap => exact ⟨_, .nil (List.forall_mem_cons.mpr ⟨blank, gap⟩)⟩
    | cons gap filled solid apart others =>
      exact ⟨_, .cons (List.forall_mem_cons.mpr ⟨blank, gap⟩) filled solid apart others⟩
  · have alone : Solid [char] := by simpa [Solid] using blank
    have made {rest : List Char} {words : List (List Char)} (others : Worded rest words)
        (apart : ∀ next, rest.head? = some next → isBlank next = true) :
        ∃ longer, Worded (char :: rest) longer := by
      have nothing : Blank [] := by simp [Blank]
      exact ⟨_, .cons nothing (List.cons_ne_nil char []) alone apart others⟩
    cases worded with
    | nil gap => exact made (.nil gap) fun next first => gap next (List.mem_of_head? first)
    | @cons gap word rest words between filled solid apart others =>
      cases gap with
      | nil =>
        have longer : Solid (char :: word) := List.forall_mem_append.mpr ⟨alone, solid⟩
        exact ⟨_, .cons between (List.cons_ne_nil char word) longer apart others⟩
      | cons first gap =>
        refine made (.cons between filled solid apart others) ?_
        rintro next ⟨⟩
        exact between first List.mem_cons_self

theorem exists_worded (line : List Char) : ∃ list, Worded line list := by
  induction line with
  | nil => exact ⟨[], .nil (by simp [Blank])⟩
  | cons char rest ih =>
    obtain ⟨list, worded⟩ := ih
    exact worded.exists_cons char

/-- A line is a row of words in one way only, and splitting finds them. -/
theorem words_eq_iff {line : List Char} {list : List (List Char)} :
    words line = list ↔ Worded line list := by
  constructor
  · rintro rfl
    obtain ⟨list, worded⟩ := exists_worded line
    rwa [words_of_worded worded]
  · exact words_of_worded

/-- Words are not empty, and there is no white space in them. -/
theorem Worded.mem {line word : List Char} {list : List (List Char)} (worded : Worded line list)
    (member : word ∈ list) : word ≠ [] ∧ Solid word := by
  induction worded with
  | nil => cases member
  | cons _ filled solid _ _ ih =>
    rcases List.mem_cons.mp member with rfl | later
    · exact ⟨filled, solid⟩
    · exact ih later

private theorem Worded.blank_append {gap line : List Char} {list : List (List Char)}
    (blank : Blank gap)
    (worded : Worded line list) : Worded (gap ++ line) list := by
  cases worded with
  | nil further => exact .nil (List.forall_mem_append.mpr ⟨blank, further⟩)
  | cons further filled solid apart others =>
    rw [← List.append_assoc, ← List.append_assoc]
    exact .cons (List.forall_mem_append.mpr ⟨blank, further⟩) filled solid apart others

/-- Words put together with spaces are the words of the line that they make. -/
theorem worded_intercalate {list : List (List Char)}
    (proper : ∀ word ∈ list, word ≠ [] ∧ Solid word) :
    Worded (List.intercalate [' '] list) list := by
  have nothing : Blank [] := by simp [Blank]
  have space : Blank [' '] := by simp [Blank, isBlank]
  induction list with
  | nil => exact .nil nothing
  | cons word rest ih =>
    obtain ⟨⟨filled, solid⟩, others⟩ := List.forall_mem_cons.mp proper
    cases rest with
    | nil =>
      have alone : Worded ([] ++ word ++ []) [word] :=
        .cons nothing filled solid (by simp) (.nil nothing)
      rw [List.append_nil, List.nil_append] at alone
      rwa [List.intercalate_singleton]
    | cons next later =>
      rw [List.intercalate_cons_cons, List.append_assoc]
      exact .cons nothing filled solid (by simp [isBlank]) ((ih others).blank_append space)

end ButtonGateway.Text
