import ButtonGateway.Text.Numeral

namespace ButtonGateway.Text.Decimal

/-- The digits of a number behind any number of zeros. -/
def Padded (chars : List Char) (number : Nat) : Prop :=
  ∃ zeros, chars = List.replicate zeros '0' ++ Nat.toDigits 10 number

/-- A numeral without a minus sign. -/
def Unsigned (chars : List Char) (number : Nat) : Prop :=
  Padded chars number ∨ ∃ rest, chars = '+' :: rest ∧ Padded rest number

/-- A numeral with or without a sign. Only zero can have either one. -/
def Signed (chars : List Char) (number : Int) : Prop :=
  0 ≤ number ∧ Unsigned chars number.natAbs ∨
    number ≤ 0 ∧ ∃ rest, chars = '-' :: rest ∧ Padded rest number.natAbs

private theorem digit?_eq (char : Char) :
    digit? char = if char.isDigit then some (char.toNat - '0'.toNat) else none := by
  have same : char.isDigit = true ↔ '0' ≤ char ∧ char ≤ '9' := by
    simp [Char.isDigit, Char.le_def]
  rw [digit?]
  split
  · rename_i digit
    rw [if_pos (same.mpr digit)]
  · rename_i other
    rw [if_neg (mt same.mp other)]

theorem bounds_of_isDigit {char : Char} (digit : char.isDigit = true) :
    48 ≤ char.toNat ∧ char.toNat ≤ 57 := by
  simpa [Char.isDigit, Char.le_def, UInt32.le_iff_toNat_le] using digit

theorem toDigits_of_isDigit {char : Char} (digit : char.isDigit = true) :
    Nat.toDigits 10 (char.toNat - '0'.toNat) = [char] := by
  have bounds := bounds_of_isDigit digit
  have zero : '0'.toNat = 48 := rfl
  have same : (char.toNat - '0'.toNat).digitChar = char := by
    rw [← Char.toNat_inj, Nat.toNat_digitChar_of_lt_ten (by omega)]
    omega
  rw [Nat.toDigits_of_lt_base (by omega), same]

private theorem le_ofDigitChars (chars : List Char) (value : Nat) :
    value ≤ Nat.ofDigitChars 10 chars value := by
  have power : 0 < 10 ^ chars.length := Nat.pow_pos (by decide)
  rw [Nat.ofDigitChars_eq_ofDigitChars_zero]
  exact Nat.le_trans (Nat.le_mul_of_pos_left value power) (Nat.le_add_right _ _)

/-- Reading digits one by one gives the number that they stand for, if it is within the limit. -/
theorem digits_eq_ok_iff {limit : Nat} {beyond : Refusal} {value : Nat} (fits : value ≤ limit)
    {chars : List Char} {number : Nat} :
    digits limit beyond value chars = .ok number ↔
      (∀ char ∈ chars, char.isDigit = true) ∧ Nat.ofDigitChars 10 chars value = number ∧
        number ≤ limit := by
  induction chars generalizing value with
  | nil =>
    simp only [digits, Except.ok.injEq, List.not_mem_nil, false_implies, implies_true, true_and,
      Nat.ofDigitChars_nil]
    constructor
    · rintro rfl
      exact ⟨rfl, fits⟩
    · exact And.left
  | cons char rest ih =>
    rw [digits, digit?_eq, List.forall_mem_cons, Nat.ofDigitChars_cons, Nat.mul_comm 10 value]
    by_cases digit : char.isDigit = true
    · rw [if_pos digit, and_iff_right digit]
      dsimp only
      by_cases small : value * 10 + (char.toNat - '0'.toNat) ≤ limit
      · rw [if_pos small, ih small]
      · rw [if_neg small]
        refine iff_of_false (by simp) ?_
        rintro ⟨-, rfl, bounded⟩
        exact small (Nat.le_trans (le_ofDigitChars rest _) bounded)
    · rw [if_neg digit]
      exact iff_of_false (by simp) fun all => digit all.1.1

/-- More digits behind those of a positive number are the digits of what they make of it. -/
theorem toDigits_append {chars : List Char} {value : Nat} (positive : 0 < value)
    (all : ∀ char ∈ chars, char.isDigit = true) :
    Nat.toDigits 10 value ++ chars = Nat.toDigits 10 (Nat.ofDigitChars 10 chars value) := by
  induction chars generalizing value with
  | nil => rw [List.append_nil, Nat.ofDigitChars_nil]
  | cons char rest ih =>
    obtain ⟨digit, others⟩ := List.forall_mem_cons.mp all
    have bounds := bounds_of_isDigit digit
    have zero : '0'.toNat = 48 := rfl
    have longer : Nat.toDigits 10 value ++ [char] =
        Nat.toDigits 10 (10 * value + (char.toNat - '0'.toNat)) := by
      rw [← Nat.toDigits_append_toDigits (by decide) positive (by omega), toDigits_of_isDigit digit]
    rw [Nat.ofDigitChars_cons, ← ih (by omega) others, ← longer, List.append_assoc]
    rfl

private theorem padded_ofDigitChars {chars : List Char} (some : chars ≠ [])
    (all : ∀ char ∈ chars, char.isDigit = true) :
    Padded chars (Nat.ofDigitChars 10 chars 0) := by
  induction chars with
  | nil => exact absurd rfl some
  | cons char rest ih =>
    obtain ⟨digit, others⟩ := List.forall_mem_cons.mp all
    rw [Nat.ofDigitChars_cons, Nat.mul_zero, Nat.zero_add]
    by_cases last : rest = []
    · refine ⟨0, ?_⟩
      rw [last, Nat.ofDigitChars_nil, toDigits_of_isDigit digit]
      rfl
    · by_cases leading : char = '0'
      · obtain ⟨zeros, same⟩ := ih last others
        refine ⟨zeros + 1, ?_⟩
        rw [leading, List.replicate_succ, List.cons_append, Nat.sub_self, ← same]
      · have bounds := bounds_of_isDigit digit
        have other : char.toNat ≠ '0'.toNat := mt Char.toNat_inj.mp leading
        have zero : '0'.toNat = 48 := rfl
        refine ⟨0, ?_⟩
        rw [← toDigits_append (by omega) others, toDigits_of_isDigit digit]
        rfl

/-- Digits are read as a number exactly if they are the digits of that number behind zeros. -/
theorem padded_iff {chars : List Char} {number : Nat} : Padded chars number ↔
    chars ≠ [] ∧ (∀ char ∈ chars, char.isDigit = true) ∧ Nat.ofDigitChars 10 chars 0 = number := by
  constructor
  · rintro ⟨zeros, rfl⟩
    refine ⟨?_, ?_, ?_⟩
    · exact List.append_ne_nil_of_right_ne_nil _ Nat.toDigits_ne_nil
    · intro char member
      rcases List.mem_append.mp member with leading | digit
      · rw [List.eq_of_mem_replicate leading]
        rfl
      · exact Nat.isDigit_of_mem_toDigits (by decide) (by decide) digit
    · rw [Nat.ofDigitChars_append, Nat.ofDigitChars_replicate_zero, Nat.mul_zero,
        Nat.ofDigitChars_ten_toDigits]
  · rintro ⟨some, all, rfl⟩
    exact padded_ofDigitChars some all

theorem digits1_eq_ok_iff {limit : Nat} {beyond : Refusal} {chars : List Char} {number : Nat} :
    digits1 limit beyond chars = .ok number ↔ Padded chars number ∧ number ≤ limit := by
  rw [padded_iff]
  cases chars with
  | nil => simp [digits1]
  | cons char rest =>
    rw [digits1, digits_eq_ok_iff (Nat.zero_le limit), and_iff_right (List.cons_ne_nil char rest),
      and_assoc]
    exact List.cons_ne_nil char rest

theorem Padded.not_mem {chars : List Char} {number : Nat} (padded : Padded chars number)
    (char : Char) (notDigit : char.isDigit = false) : char ∉ chars := by
  intro member
  have digit := (padded_iff.mp padded).2.1 char member
  cases notDigit.symm.trans digit

/-- A sign is no digit. -/
theorem not_padded_sign {sign : Char} (notDigit : sign.isDigit = false) {rest : List Char}
    {number : Nat} : ¬ Padded (sign :: rest) number :=
  fun padded => padded.not_mem sign notDigit List.mem_cons_self

private theorem not_padded_nil {number : Nat} : ¬ Padded [] number :=
  fun padded => (padded_iff.mp padded).1 rfl

private theorem unsigned_plus_iff {rest : List Char} {number : Nat} :
    Unsigned ('+' :: rest) number ↔ Padded rest number := by
  rw [Unsigned, or_iff_right (not_padded_sign rfl)]
  simp

theorem unsigned_iff_padded {chars : List Char} (notPlus : ∀ rest, chars ≠ '+' :: rest)
    {number : Nat} : Unsigned chars number ↔ Padded chars number := by
  refine or_iff_left ?_
  rintro ⟨rest, same, -⟩
  exact notPlus rest same

private theorem nat_eq_ok_iff {limit : Nat} {chars : List Char} {number : Nat} :
    nat limit chars = .ok number ↔ Unsigned chars number ∧ number ≤ limit := by
  unfold nat
  split
  · simp [Unsigned, not_padded_nil]
  · rw [digits1_eq_ok_iff, unsigned_plus_iff]
  · rename_i notPlus
    rw [digits1_eq_ok_iff, unsigned_iff_padded notPlus]

theorem map_eq_ok_iff {ε α β : Type} {f : α → β} {result : Except ε α} {value : β} :
    result.map f = .ok value ↔ ∃ before, result = .ok before ∧ f before = value := by
  cases result <;> simp [Except.map]

private theorem map_ofNat_eq_ok_iff {limit : Nat} {beyond : Refusal} {chars : List Char}
    {number : Int} :
    (digits1 limit beyond chars).map Int.ofNat = .ok number ↔
      (0 ≤ number ∧ Padded chars number.natAbs) ∧ number ≤ limit := by
  simp only [map_eq_ok_iff, digits1_eq_ok_iff]
  constructor
  · rintro ⟨value, ⟨padded, fits⟩, rfl⟩
    exact ⟨⟨Int.natCast_nonneg value, padded⟩, Int.ofNat_le.mpr fits⟩
  · rintro ⟨⟨positive, padded⟩, fits⟩
    exact ⟨number.natAbs, ⟨padded, by omega⟩, Int.natAbs_of_nonneg positive⟩

private theorem map_neg_eq_ok_iff {limit : Nat} {beyond : Refusal} {chars : List Char}
    {number : Int} :
    (digits1 limit beyond chars).map (fun value => -(value : Int)) = .ok number ↔
      (number ≤ 0 ∧ Padded chars number.natAbs) ∧ -(limit : Int) ≤ number := by
  -- The value is an integer before its sign changes, so the map is one over a reading of integers.
  have direct : (digits1 limit beyond chars).map (fun value => -(value : Int)) =
      (digits1 limit beyond chars).map fun value : Nat => -(value : Int) := by
    cases digits1 limit beyond chars <;> rfl
  simp only [direct, map_eq_ok_iff, digits1_eq_ok_iff]
  constructor
  · rintro ⟨value, ⟨padded, fits⟩, rfl⟩
    rw [Int.natAbs_neg, Int.natAbs_natCast]
    exact ⟨⟨by omega, padded⟩, by omega⟩
  · rintro ⟨⟨negative, padded⟩, fits⟩
    exact ⟨number.natAbs, ⟨padded, by omega⟩, by omega⟩

private theorem signed_minus_iff {rest : List Char} {number : Int} :
    Signed ('-' :: rest) number ↔ number ≤ 0 ∧ Padded rest number.natAbs := by
  have notUnsigned : ¬ Unsigned ('-' :: rest) number.natAbs := by
    rw [unsigned_iff_padded (by simp)]
    exact not_padded_sign rfl
  simp [Signed, notUnsigned]

private theorem signed_iff_unsigned {chars : List Char} (notMinus : ∀ rest, chars ≠ '-' :: rest)
    {number : Int} : Signed chars number ↔ 0 ≤ number ∧ Unsigned chars number.natAbs := by
  refine or_iff_left ?_
  rintro ⟨-, rest, same, -⟩
  exact notMinus rest same

private theorem int_eq_ok_iff {limit : Nat} {chars : List Char} {number : Int} :
    int limit chars = .ok number ↔
      Signed chars number ∧ -(limit + 1 : Int) ≤ number ∧ number ≤ limit := by
  unfold int
  split
  · simp [Signed, Unsigned, not_padded_nil]
  · rw [map_ofNat_eq_ok_iff, signed_iff_unsigned (by simp), unsigned_plus_iff]
    exact and_congr_right fun positive => by omega
  · rw [map_neg_eq_ok_iff, signed_minus_iff]
    exact and_congr_right fun negative => by omega
  · rename_i notPlus notMinus
    rw [map_ofNat_eq_ok_iff, signed_iff_unsigned notMinus, unsigned_iff_padded notPlus]
    exact and_congr_right fun positive => by omega

/-- Nothing but digits and a sign is in a numeral. -/
theorem Unsigned.not_mem {chars : List Char} {number : Nat} (unsigned : Unsigned chars number)
    (char : Char) (notDigit : char.isDigit = false) (notSign : char ≠ '+') : char ∉ chars := by
  rcases unsigned with padded | ⟨rest, rfl, padded⟩
  · exact padded.not_mem char notDigit
  · exact List.not_mem_cons_of_ne_of_not_mem notSign (padded.not_mem char notDigit)

theorem Unsigned.ne_nil {chars : List Char} {number : Nat} (unsigned : Unsigned chars number) :
    chars ≠ [] := by
  rcases unsigned with padded | ⟨rest, rfl, -⟩
  · exact (padded_iff.mp padded).1
  · exact List.cons_ne_nil '+' rest

section Word

variable {α : Type} {limit : Nat} {ofNumber : Nat → α} (number : α → Nat)

/-- A word is read as the number within its range whose numeral it is. -/
theorem map_nat_eq_ok_iff (bounded : ∀ word, number word ≤ limit)
    (ofNumber_number : ∀ word, ofNumber (number word) = word)
    (number_ofNumber : ∀ whole ≤ limit, number (ofNumber whole) = whole)
    {chars : List Char} {word : α} :
    (nat limit chars).map ofNumber = .ok word ↔ Unsigned chars (number word) := by
  rw [map_eq_ok_iff]
  constructor
  · rintro ⟨whole, read, rfl⟩
    obtain ⟨written, fits⟩ := nat_eq_ok_iff.mp read
    rwa [number_ofNumber whole fits]
  · intro written
    exact ⟨number word, nat_eq_ok_iff.mpr ⟨written, bounded word⟩, ofNumber_number word⟩

end Word

theorem uint16_eq_ok_iff {chars : List Char} {number : UInt16} :
    uint16 chars = .ok number ↔ Unsigned chars number.toNat :=
  map_nat_eq_ok_iff UInt16.toNat (fun word => Nat.le_of_lt_succ word.toNat_lt)
    (fun _ => UInt16.ofNat_toNat) fun _ fits => UInt16.toNat_ofNat_of_lt' (Nat.lt_succ_of_le fits)

theorem uint32_eq_ok_iff {chars : List Char} {number : UInt32} :
    uint32 chars = .ok number ↔ Unsigned chars number.toNat :=
  map_nat_eq_ok_iff UInt32.toNat (fun word => Nat.le_of_lt_succ word.toNat_lt)
    (fun _ => UInt32.ofNat_toNat) fun _ fits => UInt32.toNat_ofNat_of_lt' (Nat.lt_succ_of_le fits)

theorem int16_eq_ok_iff {chars : List Char} {number : Int16} :
    int16 chars = .ok number ↔ Signed chars number.toInt := by
  have least := number.le_toInt
  have most := number.toInt_lt
  rw [int16, map_eq_ok_iff]
  constructor
  · rintro ⟨value, read, rfl⟩
    obtain ⟨written, small, large⟩ := int_eq_ok_iff.mp read
    rwa [Int16.toInt_ofInt_of_le (by omega) (by omega)]
  · intro written
    exact ⟨number.toInt, int_eq_ok_iff.mpr ⟨written, by omega, by omega⟩, Int16.ofInt_toInt number⟩

/-- The canonical numeral of a natural number has neither a sign nor zeros in front. -/
theorem unsigned_toDigits (number : Nat) : Unsigned (Nat.toDigits 10 number) number :=
  .inl ⟨0, rfl⟩

theorem signed_repr (number : Int) : Signed number.repr.toList number := by
  rw [Int.repr_eq_if]
  split
  · rename_i positive
    rw [Nat.toList_repr, ← Int.natAbs_of_nonneg positive, Int.toNat_natCast]
    exact .inl ⟨Int.natCast_nonneg _, unsigned_toDigits _⟩
  · rename_i negative
    rw [String.toList_append, Nat.toList_repr]
    have same : (-number).toNat = number.natAbs := by omega
    exact .inr ⟨by omega, _, rfl, 0, by rw [same]; rfl⟩

end ButtonGateway.Text.Decimal
