import Mathlib.Data.List.Basic
import ButtonGateway.Text.Numeral

namespace ButtonGateway.Text

/-- The number of a character in lower case. Only the letters from A to Z have another one. -/
theorem toNat_toLower (char : Char) : char.toLower.toNat =
    if 65 ≤ char.toNat ∧ char.toNat ≤ 90 then char.toNat + 32 else char.toNat := by
  unfold Char.toLower
  split
  · rename_i upper
    have letter : 65 ≤ char.toNat ∧ char.toNat ≤ 90 := upper
    rw [if_pos letter]
    change (char.val + 32).toNat = _
    rw [UInt32.toNat_add]
    change (char.toNat + 32) % 2 ^ 32 = _
    omega
  · rename_i other
    have letter : ¬ (65 ≤ char.toNat ∧ char.toNat ≤ 90) := other
    rw [if_neg letter]

namespace Hex

/-- A hexadecimal digit in either case. -/
def IsDigit (char : Char) : Prop :=
  '0' ≤ char ∧ char ≤ '9' ∨ 'a' ≤ char ∧ char ≤ 'f' ∨ 'A' ≤ char ∧ char ≤ 'F'

/-- The digits in lower case, each in the place of its value. -/
def alphabet : List Char := "0123456789abcdef".toList

/-- Two digits stand for a byte: the first for its sixteens and the second for what is left. -/
def Spells (group : List Char) (byte : UInt8) : Prop :=
  ∃ high low, group = [high, low] ∧ alphabet[byte.toNat / 16]? = some high.toLower ∧
    alphabet[byte.toNat % 16]? = some low.toLower

private theorem getElem?_alphabet {value : Nat} (small : value < 16) :
    alphabet[value]? = some (digit value) := by
  revert value
  decide

private theorem toNat_digit {value : Nat} (small : value < 16) :
    (digit value).toNat = if value < 10 then 48 + value else 87 + value := by
  revert value
  decide

theorem value?_eq (char : Char) : value? char =
    if 48 ≤ char.toNat ∧ char.toNat ≤ 57 then some (char.toNat - 48)
    else if 97 ≤ char.toNat ∧ char.toNat ≤ 102 then some (char.toNat - 97 + 10)
    else if 65 ≤ char.toNat ∧ char.toNat ≤ 70 then some (char.toNat - 65 + 10)
    else none := rfl

private theorem lt_of_value? {char : Char} {value : Nat} (found : value? char = some value) :
    value < 16 := by
  rw [value?_eq] at found
  split at found
  · cases found
    omega
  · split at found
    · cases found
      omega
    · split at found
      · cases found
        omega
      · cases found

/-- A digit is known by how it is written in lower case. -/
theorem value?_eq_some_iff {char : Char} {value : Nat} :
    value? char = some value ↔ value < 16 ∧ char.toLower = digit value := by
  by_cases small : value < 16
  · rw [and_iff_right small, ← Char.toNat_inj, toNat_toLower, toNat_digit small, value?_eq]
    -- The three ranges of a digit, each against the two of a written one.
    repeat' split
    all_goals
      simp only [Option.some.injEq, reduceCtorEq, false_iff]
      omega
  · exact iff_of_false (mt lt_of_value? small) fun written => small written.1

theorem exists_value?_iff {char : Char} :
    (∃ value, value? char = some value) ↔ IsDigit char := by
  have bounds (low high : Char) :
      low ≤ char ∧ char ≤ high ↔ low.toNat ≤ char.toNat ∧ char.toNat ≤ high.toNat := Iff.rfl
  rw [IsDigit, bounds, bounds, bounds, value?_eq]
  split
  · rename_i number
    exact iff_of_true ⟨_, rfl⟩ (.inl number)
  · rename_i notNumber
    split
    · rename_i small
      exact iff_of_true ⟨_, rfl⟩ (.inr (.inl small))
    · rename_i notSmall
      split
      · rename_i capital
        exact iff_of_true ⟨_, rfl⟩ (.inr (.inr capital))
      · rename_i notCapital
        refine iff_of_false (by simp) ?_
        rintro (number | small | capital)
        · exact notNumber number
        · exact notSmall small
        · exact notCapital capital

theorem toLower_digit {value : Nat} (small : value < 16) : (digit value).toLower = digit value := by
  revert value
  decide

theorem isDigit_of_mem_pair {byte : UInt8} {char : Char} (member : char ∈ pair byte) :
    IsDigit char := by
  have bound := byte.toNat_lt
  have written {value : Nat} (small : value < 16) : IsDigit (digit value) :=
    exists_value?_iff.mp ⟨value, value?_eq_some_iff.mpr ⟨small, toLower_digit small⟩⟩
  rcases List.mem_pair.mp member with rfl | rfl
  · exact written (by omega)
  · exact written (by omega)

theorem map_toLower_pair (byte : UInt8) : (pair byte).map Char.toLower = pair byte := by
  have bound := byte.toNat_lt
  rw [pair, List.map_cons, List.map_singleton, toLower_digit (by omega), toLower_digit (by omega)]

private theorem map_eq_pair_iff {group : List Char} {change : Char → Char} {first second : Char} :
    group.map change = [first, second] ↔
      ∃ high low, group = [high, low] ∧ change high = first ∧ change low = second := by
  constructor
  · intro same
    have two : group.length = 2 := by simpa using congrArg List.length same
    obtain ⟨high, low, rfl⟩ := List.length_eq_two.mp two
    obtain ⟨here, rest⟩ := List.cons.inj same
    exact ⟨high, low, rfl, here, (List.cons.inj rest).1⟩
  · rintro ⟨high, low, rfl, rfl, rfl⟩
    rfl

theorem spells_iff {group : List Char} {byte : UInt8} :
    Spells group byte ↔ group.map Char.toLower = pair byte := by
  have bound := byte.toNat_lt
  rw [Spells, getElem?_alphabet (by omega), getElem?_alphabet (by omega), pair, map_eq_pair_iff]
  refine exists₂_congr fun high low => and_congr_right fun _ => ?_
  exact and_congr (by rw [Option.some_inj, eq_comm]) (by rw [Option.some_inj, eq_comm])

private theorem digits_of_byte? {group : List Char} {byte : UInt8}
    (found : byte? group = some byte) :
    ∃ high low upper lower, group = [high, low] ∧ value? high = some upper ∧
      value? low = some lower ∧ UInt8.ofNat (upper * 16 + lower) = byte := by
  unfold byte? at found
  split at found
  · rename_i high low
    split at found
    · rename_i upper lower foundUpper foundLower
      exact ⟨high, low, upper, lower, rfl, foundUpper, foundLower, Option.some.inj found⟩
    · cases found
  · cases found

/-- Two digits spell the byte that is written with them. -/
theorem byte?_eq_some_iff {group : List Char} {byte : UInt8} :
    byte? group = some byte ↔ group.map Char.toLower = pair byte := by
  rw [pair, map_eq_pair_iff]
  constructor
  · intro found
    obtain ⟨high, low, upper, lower, rfl, foundUpper, foundLower, same⟩ := digits_of_byte? found
    obtain ⟨smallUpper, writtenUpper⟩ := value?_eq_some_iff.mp foundUpper
    obtain ⟨smallLower, writtenLower⟩ := value?_eq_some_iff.mp foundLower
    have bound : upper * 16 + lower < 256 := by omega
    have number : byte.toNat = upper * 16 + lower := by
      rw [← same, UInt8.toNat_ofNat_of_lt' bound]
    have first : byte.toNat / 16 = upper := by omega
    have second : byte.toNat % 16 = lower := by omega
    rw [first, second]
    exact ⟨high, low, rfl, writtenUpper, writtenLower⟩
  · rintro ⟨high, low, rfl, writtenUpper, writtenLower⟩
    have bound := byte.toNat_lt
    have upper := value?_eq_some_iff.mpr ⟨by omega, writtenUpper⟩
    have lower := value?_eq_some_iff.mpr ⟨by omega, writtenLower⟩
    have number : byte.toNat / 16 * 16 + byte.toNat % 16 = byte.toNat := by omega
    rw [byte?, upper, lower]
    dsimp only
    rw [number, UInt8.ofNat_toNat]

private theorem exists_byte?_iff {group : List Char} :
    (∃ byte, byte? group = some byte) ↔ group.length = 2 ∧ ∀ char ∈ group, IsDigit char := by
  constructor
  · rintro ⟨byte, found⟩
    obtain ⟨high, low, upper, lower, rfl, foundUpper, foundLower, -⟩ := digits_of_byte? found
    have first := exists_value?_iff.mp ⟨upper, foundUpper⟩
    have second := exists_value?_iff.mp ⟨lower, foundLower⟩
    exact ⟨rfl, by simpa using ⟨first, second⟩⟩
  · rintro ⟨two, digits⟩
    obtain ⟨high, low, rfl⟩ := List.length_eq_two.mp two
    obtain ⟨upper, foundUpper⟩ := exists_value?_iff.mpr (digits high (by simp))
    obtain ⟨lower, foundLower⟩ := exists_value?_iff.mpr (digits low (by simp))
    exact ⟨_, by rw [byte?, foundUpper, foundLower]⟩

private theorem mapM_cons_eq_some_iff {group : List Char} {rest : List (List Char)}
    {bytes : List UInt8} :
    (group :: rest).mapM byte? = some bytes ↔ ∃ byte others, byte? group = some byte ∧
      rest.mapM byte? = some others ∧ byte :: others = bytes := by
  rw [List.mapM_cons]
  cases byte? group with
  | none => simp
  | some byte => cases rest.mapM byte? <;> simp

/-- Groups spell the bytes that are written with them, one after another. -/
theorem mapM_byte?_eq_some_iff {groups : List (List Char)} {bytes : List UInt8} :
    groups.mapM byte? = some bytes ↔ groups.map (·.map Char.toLower) = bytes.map pair := by
  induction groups generalizing bytes with
  | nil => cases bytes <;> simp
  | cons group rest ih =>
    simp only [mapM_cons_eq_some_iff, byte?_eq_some_iff, ih]
    constructor
    · rintro ⟨byte, others, first, further, rfl⟩
      rw [List.map_cons, first, further, List.map_cons]
    · intro spelled
      cases bytes with
      | nil => cases spelled
      | cons byte others =>
        obtain ⟨first, further⟩ := List.cons.inj spelled
        exact ⟨byte, others, first, further, rfl⟩

theorem exists_mapM_byte?_iff {groups : List (List Char)} :
    (∃ bytes, groups.mapM byte? = some bytes) ↔
      ∀ group ∈ groups, group.length = 2 ∧ ∀ char ∈ group, IsDigit char := by
  induction groups with
  | nil => simp
  | cons group rest ih =>
    rw [List.forall_mem_cons, ← ih, ← exists_byte?_iff]
    simp only [mapM_cons_eq_some_iff]
    constructor
    · rintro ⟨_, byte, others, first, further, rfl⟩
      exact ⟨⟨byte, first⟩, others, further⟩
    · rintro ⟨⟨byte, first⟩, others, further⟩
      exact ⟨_, byte, others, first, further, rfl⟩

end Hex

end ButtonGateway.Text
