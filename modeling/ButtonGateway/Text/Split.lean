namespace ButtonGateway.Text

/-- The pieces between the characters that `stops` picks out: one more than there are of these. -/
def pieces (stops : Char → Bool) : List Char → List (List Char)
  | [] => [[]]
  | char :: rest =>
    if stops char then [] :: pieces stops rest
    else match pieces stops rest with
      | [] => [[char]]
      | piece :: others => (char :: piece) :: others

/-- What stands before and behind the last `mark`. -/
def splitLast? (mark : Char) : List Char → Option (List Char × List Char)
  | [] => none
  | char :: rest =>
    match splitLast? mark rest with
    | some (before, behind) => some (char :: before, behind)
    | none => if char = mark then some ([], rest) else none

def dropTrailing (mark : Char) (chars : List Char) : List Char :=
  (chars.reverse.dropWhile (· == mark)).reverse

/-- The characters with the property `White_Space`. -/
def isBlank (char : Char) : Bool :=
  let code := char.toNat
  (0x09 ≤ code && code ≤ 0x0D) || code == 0x20 || code == 0x85 || code == 0xA0 ||
    code == 0x1680 || (0x2000 ≤ code && code ≤ 0x200A) || code == 0x2028 || code == 0x2029 ||
    code == 0x202F || code == 0x205F || code == 0x3000

def trim (chars : List Char) : List Char :=
  ((chars.dropWhile isBlank).reverse.dropWhile isBlank).reverse

/-- The non-empty runs between white space. -/
def words (chars : List Char) : List (List Char) :=
  (pieces isBlank chars).filter (fun piece => !piece.isEmpty)

theorem pieces_ne_nil (stops : Char → Bool) (chars : List Char) : pieces stops chars ≠ [] := by
  cases chars with
  | nil => simp [pieces]
  | cons char rest =>
    rw [pieces]
    split
    · simp
    · split <;> simp

theorem splitLast?_eq_none_iff {mark : Char} {chars : List Char} :
    splitLast? mark chars = none ↔ mark ∉ chars := by
  induction chars with
  | nil => simp [splitLast?]
  | cons char rest ih =>
    rw [splitLast?]
    split
    · rename_i before behind found
      have inside : mark ∈ rest := by
        false_or_by_contra
        rename_i absent
        simp [ih.mpr absent] at found
      simp [inside]
    · rename_i found
      have absent := ih.mp found
      split
      · rename_i same
        simp [same]
      · rename_i different
        simp [absent, Ne.symm different]

theorem eq_of_splitLast? {mark : Char} {chars before behind : List Char}
    (found : splitLast? mark chars = some (before, behind)) :
    chars = before ++ mark :: behind ∧ mark ∉ behind := by
  induction chars generalizing before with
  | nil => simp [splitLast?] at found
  | cons char rest ih =>
    rw [splitLast?] at found
    split at found
    · rename_i inner tail deeper
      obtain ⟨rfl, rfl⟩ := Prod.mk.inj (Option.some.inj found)
      obtain ⟨same, absent⟩ := ih deeper
      exact ⟨by simp [same], absent⟩
    · rename_i missing
      split at found
      · rename_i same
        obtain ⟨rfl, rfl⟩ := Prod.mk.inj (Option.some.inj found)
        exact ⟨by simp [same], splitLast?_eq_none_iff.mp missing⟩
      · cases found

end ButtonGateway.Text
