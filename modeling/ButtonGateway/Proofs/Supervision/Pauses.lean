import ButtonGateway.Proofs.Supervision.Attempts
import Mathlib.Data.UInt
/-!
How long supervision waits before an attempt. The pause doubles from one attempt to the next and
stays at a minute. Doublings and attempts are counted only up to a bound, and products only up to
the greatest number, but the minute is reached long before that shows.
-/
namespace ButtonGateway

namespace Backoff

/-- After ten doublings a tenth of a second has become more than a minute. -/
theorem minute_le_doubled {count : Nat} (many : 10 ≤ count) : 60000 ≤ 100 * 2 ^ count := by
  have grown : 2 ^ 10 ≤ 2 ^ count := Nat.pow_le_pow_right Nat.two_pos many
  omega

/-- A bound on the number of doublings does not show, unless it is below ten. -/
theorem min_doubled_min (count : Nat) {bound : Nat} (high : 10 ≤ bound) :
    min (100 * 2 ^ min count bound) 60000 = min (100 * 2 ^ count) 60000 := by
  rcases Nat.le_total count bound with few | many
  · rw [Nat.min_eq_left few]
  · have beyond := minute_le_doubled (high.trans many)
    rw [Nat.min_eq_right many, Nat.min_eq_right (minute_le_doubled high), Nat.min_eq_right beyond]

private theorem toNat_saturatingMul (left right : UInt64) :
    (saturatingMul left right).toNat = min (left.toNat * right.toNat) (2 ^ 64 - 1) := by
  unfold saturatingMul
  split
  · rename_i within
    have small : left.toNat * right.toNat < 2 ^ 64 := within
    rw [UInt64.toNat_mul, Nat.mod_eq_of_lt small, Nat.min_eq_left (Nat.le_sub_one_of_lt small)]
  · rename_i beyond
    have large : 2 ^ 64 ≤ left.toNat * right.toNat := Nat.le_of_not_lt beyond
    rw [Nat.min_eq_right (by omega)]
    rfl

variable {attempt : UInt32}

private theorem toNat_doublings (counted : 1 ≤ attempt) :
    (doublings attempt).toNat = min (attempt.toNat - 1) 30 := by
  rw [doublings, UInt32.toNat_min, UInt32.toNat_sub_of_le _ _ counted]
  rfl

/-- The factor is a power of two that is far from the greatest number. -/
theorem toNat_factor (counted : 1 ≤ attempt) :
    ((1 : UInt64) <<< (doublings attempt).toUInt64).toNat = 2 ^ min (attempt.toNat - 1) 30 := by
  have few : min (attempt.toNat - 1) 30 ≤ 30 := Nat.min_le_right _ _
  have small : 2 ^ min (attempt.toNat - 1) 30 < 2 ^ 64 :=
    Nat.pow_lt_pow_right (by decide) (by omega)
  rw [UInt64.toNat_shiftLeft, UInt32.toNat_toUInt64, toNat_doublings counted,
    Nat.mod_eq_of_lt (by omega : min (attempt.toNat - 1) 30 < 64), UInt64.toNat_one,
    Nat.one_shiftLeft, Nat.mod_eq_of_lt small]

/-- The product is the one that unbounded numbers have. -/
theorem toNat_product (counted : 1 ≤ attempt) :
    (saturatingMul shortest (1 <<< (doublings attempt).toUInt64)).toNat =
        100 * 2 ^ min (attempt.toNat - 1) 30 ∧
      100 * 2 ^ min (attempt.toNat - 1) 30 < 2 ^ 64 := by
  have few : 2 ^ min (attempt.toNat - 1) 30 ≤ 2 ^ 30 :=
    Nat.pow_le_pow_right Nat.two_pos (Nat.min_le_right _ _)
  have small : 100 * 2 ^ min (attempt.toNat - 1) 30 < 2 ^ 64 := by omega
  rw [toNat_saturatingMul, toNat_factor counted]
  exact ⟨Nat.min_eq_left (Nat.le_sub_one_of_lt small), small⟩

theorem toNat_delay (counted : 1 ≤ attempt) :
    (delay attempt).toNat = min (100 * 2 ^ (attempt.toNat - 1)) 60000 := by
  have nonzero : attempt ≠ 0 := by
    rintro rfl
    exact absurd counted (by decide)
  rw [delay, if_neg nonzero, UInt64.toNat_min, (toNat_product counted).1]
  exact min_doubled_min _ (by decide)

private theorem delay_le (attempt : UInt32) : delay attempt ≤ 60000 := by
  unfold delay
  split
  · decide
  · rw [UInt64.le_iff_toNat_le, UInt64.toNat_min]
    exact Nat.min_le_right _ _

private theorem le_delay (counted : 1 ≤ attempt) : 100 ≤ delay attempt := by
  have once : 100 ≤ 100 * 2 ^ (attempt.toNat - 1) :=
    Nat.le_mul_of_pos_right 100 (Nat.two_pow_pos _)
  rw [UInt64.le_iff_toNat_le, toNat_delay counted]
  exact Nat.le_min.mpr ⟨once, by decide⟩

private theorem delay_mono {earlier later : UInt32} (before : earlier ≤ later) :
    delay earlier ≤ delay later := by
  by_cases zero : earlier = 0
  · rw [zero]
    exact UInt64.zero_le
  · have counted : 1 ≤ earlier := by
      rw [UInt32.le_iff_toNat_le]
      exact Nat.pos_of_ne_zero fun none => zero (UInt32.toNat_inj.mp none)
    have fewer : earlier.toNat ≤ later.toNat := UInt32.le_iff_toNat_le.mp before
    have grown : 2 ^ (earlier.toNat - 1) ≤ 2 ^ (later.toNat - 1) :=
      Nat.pow_le_pow_right Nat.two_pos (Nat.sub_le_sub_right fewer 1)
    rw [UInt64.le_iff_toNat_le, toNat_delay counted, toNat_delay (UInt32.le_trans counted before)]
    omega

/-- The pause before an attempt is a tenth of a second, doubled once for every attempt before it, or
a minute if that is less. It is the same as if all numbers were unbounded: the product of what is
computed on the way is exact and fits a word, and the bound on the doublings does not show. So the
pause never becomes shorter with further attempts, and it lasts from a tenth of a second to a
minute. -/
theorem pauses_double_up_to_a_minute :
    (∀ attempt : UInt32, 1 ≤ attempt →
      (delay attempt).toNat = min (100 * 2 ^ (attempt.toNat - 1)) 60000 ∧
        (saturatingMul shortest (1 <<< (doublings attempt).toUInt64)).toNat =
          100 * 2 ^ min (attempt.toNat - 1) 30 ∧
        100 * 2 ^ min (attempt.toNat - 1) 30 < 2 ^ 64 ∧
        100 ≤ delay attempt ∧ delay attempt ≤ 60000) ∧
    ∀ earlier later : UInt32, earlier ≤ later → delay earlier ≤ delay later := by
  refine ⟨?_, fun _ _ => delay_mono⟩
  intro attempt counted
  obtain ⟨product, small⟩ := toNat_product counted
  exact ⟨toNat_delay counted, product, small, le_delay counted, delay_le attempt⟩

/-- Before the tenth attempt the pause is still less than a minute; before the greatest number of an
attempt it is a minute, after no more than thirty doublings. -/
theorem pauses_before_tenth_and_last_attempt :
    1 ≤ (10 : UInt32) ∧ (delay 10).toNat = min (100 * 2 ^ 9) 60000 ∧ delay 10 = 51200 ∧
      1 ≤ (4294967295 : UInt32) ∧
      (saturatingMul shortest (1 <<< (doublings 4294967295).toUInt64)).toNat = 100 * 2 ^ 30 ∧
      delay 4294967295 = 60000 ∧
      (10 : UInt32) ≤ 4294967295 ∧ delay 10 ≤ delay 4294967295 := by
  have ten : 1 ≤ (10 : UInt32) := by decide
  have last : 1 ≤ (4294967295 : UInt32) := by decide
  have further : (10 : UInt32) ≤ 4294967295 := by decide
  obtain ⟨pauses, rises⟩ := pauses_double_up_to_a_minute
  exact ⟨ten, (pauses 10 ten).1, by decide, last, (pauses 4294967295 last).2.1, by decide, further,
    rises 10 4294967295 further⟩

/-- The greatest number of an attempt does not show either. -/
theorem toNat_delay_of_count {count : Nat} (counts : attempt.toNat = min (count + 1) (2 ^ 32 - 1)) :
    (delay attempt).toNat = min (100 * 2 ^ count) 60000 := by
  have counted : 1 ≤ attempt := by
    rw [UInt32.le_iff_toNat_le, counts, UInt32.toNat_one]
    omega
  have before : attempt.toNat - 1 = min count (2 ^ 32 - 2) := by omega
  rw [toNat_delay counted, before]
  exact min_doubled_min count (by decide)

end Backoff

namespace Supervision

/-- In every run of supervision the pause after an attempt is a tenth of a second, doubled once for
every attempt before it since the last healthy one, or since the first if none was healthy, and at
most a minute. -/
theorem pause_of_run {plan : Plan} {publisher : Publisher} {attempts : List Attempt} {i : Nat}
    {lasted : Option Nat} {next : Supervision} {pause : UInt64} {effects : List Effect}
    (gone : (run plan ⟨0, publisher⟩ attempts)[i]? = some (.again lasted next pause, effects)) :
    let endings := ((run plan ⟨0, publisher⟩ attempts).take (i + 1)).map Prod.fst
    ((∀ ending ∈ endings, ending.isHealthy = false) →
      pause.toNat = min (100 * 2 ^ i) 60000) ∧
    ∀ earlier healthy later, endings = earlier ++ healthy :: later → healthy.isHealthy = true →
      (∀ ending ∈ later, ending.isHealthy = false) →
      pause.toNat = min (100 * 2 ^ later.length) 60000 := by
  intro endings
  obtain ⟨counts, rfl⟩ := counts_of_run gone
  have within : i < (run plan ⟨0, publisher⟩ attempts).length :=
    (List.getElem?_eq_some_iff.mp gone).1
  have length : endings.length = i + 1 := by
    rw [List.length_map, List.length_take_of_le within]
  constructor
  · intro poor
    exact Backoff.toNat_delay_of_count (length ▸ counts.never poor)
  · intro earlier healthy later split well poor
    exact Backoff.toNat_delay_of_count (counts.since earlier healthy later split well poor)

end Supervision

end ButtonGateway
