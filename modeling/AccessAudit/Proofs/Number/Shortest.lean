import AccessAudit.Number.Shortest
import AccessAudit.Proofs.Number.Normal
import Mathlib.Data.Nat.Cast.Order.Field
import Mathlib.Tactic.FieldSimp

/-!
# The shortest decimal reads back

The search for a short decimal goes down from the place of the leading digit.
A grid finer than a quarter of the last place always has a decimal that reads
back, and such a grid is met before the search gives up.  So the decimal that
is found rounds to the double it was made from, and it is not zero unless the
double is.
-/

namespace AccessAudit

namespace Binary64

/-- The unit of the bounds: a quarter of the last place. -/
def quarter (number : Binary64) : ℚ :=
  2 ^ (number.exponent - 2)

/-- The numbers that round to a positive double. -/
def Catches (number : Binary64) (decimal : ℚ) : Prop :=
  if number.mantissa % 2 = 0 then
    number.bounds.1 * number.quarter ≤ decimal ∧
      decimal ≤ number.bounds.2 * number.quarter
  else
    number.bounds.1 * number.quarter < decimal ∧
      decimal < number.bounds.2 * number.quarter

theorem quarter_pos (number : Binary64) : 0 < number.quarter := by
  unfold quarter
  positivity

theorem value_eq_quarters (number : Binary64) :
    number.value = 4 * number.mantissa * number.quarter := by
  rw [value, quarter, zpow_sub₀ (by norm_num)]
  ring

theorem scaled_decimal_div (digits : Nat) (shift place : ℤ) :
    ((digits * Nat.pow 10 place.toNat * Nat.pow 2 (-shift).toNat : ℕ) : ℚ) /
        (Nat.pow 10 (-place).toNat * Nat.pow 2 shift.toNat : ℕ) =
      digits * 10 ^ place / 2 ^ shift := by
  rw [zpow_eq_div_toNat 2, zpow_eq_div_toNat 10, Nat.pow_eq, Nat.pow_eq,
    Nat.pow_eq, Nat.pow_eq]
  push_cast
  field_simp

theorem scaled_unit_pos (shift place : ℤ) :
    0 < Nat.pow 10 (-place).toNat * Nat.pow 2 shift.toNat :=
  Nat.mul_pos (Nat.pow_pos (by decide)) (Nat.pow_pos (by decide))

section Scaling

variable (bound digits : Nat) (shift place : ℤ)

theorem scaled_quarters_le_iff :
    bound * (Nat.pow 10 (-place).toNat * Nat.pow 2 shift.toNat) ≤
        digits * Nat.pow 10 place.toNat * Nat.pow 2 (-shift).toNat ↔
      (bound : ℚ) * 2 ^ shift ≤ digits * 10 ^ place := by
  have unit := scaled_unit_pos shift place
  rw [← le_div_iff₀ (by positivity), ← scaled_decimal_div,
    le_div_iff₀ (by exact_mod_cast unit)]
  exact_mod_cast Iff.rfl

theorem scaled_le_quarters_iff :
    digits * Nat.pow 10 place.toNat * Nat.pow 2 (-shift).toNat ≤
        bound * (Nat.pow 10 (-place).toNat * Nat.pow 2 shift.toNat) ↔
      digits * 10 ^ place ≤ (bound : ℚ) * 2 ^ shift := by
  have unit := scaled_unit_pos shift place
  rw [← div_le_iff₀ (by positivity), ← scaled_decimal_div,
    div_le_iff₀ (by exact_mod_cast unit)]
  exact_mod_cast Iff.rfl

end Scaling

theorem readsBack_iff (number : Binary64) (digits : Nat) (place : ℤ) :
    number.readsBack digits place = true ↔
      number.Catches (digits * 10 ^ place) := by
  simp only [readsBack, Catches, quarter]
  split
  · rw [Bool.and_eq_true, decide_eq_true_iff, decide_eq_true_iff,
      scaled_quarters_le_iff, scaled_le_quarters_iff]
  · rw [Bool.and_eq_true, decide_eq_true_iff, decide_eq_true_iff,
      ← not_le, ← not_le, scaled_quarters_le_iff, scaled_le_quarters_iff,
      not_le, not_le]

/-! ## Fine grids -/

theorem bounds_fst_add_one_le {number : Binary64}
    (positive : 0 < number.mantissa) :
    number.bounds.1 + 1 ≤ 4 * number.mantissa := by
  simp only [bounds]
  split <;> omega

/-- On a grid finer than a quarter of the last place, the decimal just below
the number reads back. -/
theorem readsBack_of_fine {number : Binary64}
    (positive : 0 < number.mantissa) {digits : Nat} {place : ℤ}
    (fine : 10 ^ place < number.quarter)
    (atMost : digits * 10 ^ place ≤ number.value)
    (nearly : number.value < (digits + 1) * 10 ^ place) :
    number.readsBack digits place = true := by
  have unit := number.quarter_pos
  -- Of the bounds only a quarter below and two quarters above are needed.
  have low : (number.bounds.1 : ℚ) + 1 ≤ 4 * number.mantissa := by
    exact_mod_cast bounds_fst_add_one_le positive
  have high : (number.bounds.2 : ℚ) = 4 * number.mantissa + 2 := by
    simp [bounds]
  have above : number.bounds.1 * number.quarter < digits * 10 ^ place := by
    calc number.bounds.1 * number.quarter
        ≤ (4 * number.mantissa - 1) * number.quarter := by
          gcongr
          linarith
      _ = number.value - number.quarter := by
          rw [value_eq_quarters]
          ring
      _ < digits * 10 ^ place := by linarith
  have below : digits * 10 ^ place < number.bounds.2 * number.quarter := by
    rw [high]
    calc digits * 10 ^ place ≤ number.value := atMost
      _ = 4 * number.mantissa * number.quarter := value_eq_quarters number
      _ < (4 * number.mantissa + 2) * number.quarter := by
          gcongr
          linarith
  rw [readsBack_iff, Catches]
  split
  · exact ⟨above.le, below.le⟩
  · exact ⟨above, below⟩

/-- A double that is positive catches positive numbers only. -/
theorem Catches.pos {number : Binary64} (positive : 0 < number.mantissa)
    {decimal : ℚ} (caught : number.Catches decimal) : 0 < decimal := by
  have lowPositive : 0 < number.bounds.1 := by
    simp only [bounds]
    split <;> omega
  have bound : (0 : ℚ) < number.bounds.1 * number.quarter :=
    mul_pos (by exact_mod_cast lowPositive) number.quarter_pos
  rw [Catches] at caught
  split at caught
  · exact bound.trans_le caught.1
  · exact bound.trans caught.1

/-! ## One grid -/

theorem onGrid?_readsBack {number : Binary64} {place : ℤ} {digits : Nat}
    (found : number.onGrid? place = some digits) :
    number.readsBack digits place = true := by
  simp only [onGrid?] at found
  split at found
  · next here _ =>
      cases found
      exact here
  · next _ here =>
      cases found
      exact here
  · cases found
  · next here next =>
      cases found
      rcases roundDiv_eq_or (number.num * Nat.pow 10 (-place).toNat)
        (number.den * Nat.pow 10 place.toNat) with same | same
      · rw [same]
        exact here
      · rw [same]
        exact next

theorem value_between_neighbours (number : Binary64) (place : ℤ) :
    let digits := number.num * Nat.pow 10 (-place).toNat /
      (number.den * Nat.pow 10 place.toNat)
    digits * 10 ^ place ≤ number.value ∧
      number.value < (digits + 1) * 10 ^ place := by
  intro digits
  set num := number.num * Nat.pow 10 (-place).toNat with isNum
  set den := number.den * Nat.pow 10 place.toNat with isDen
  have denPositive : 0 < den :=
    Nat.mul_pos number.den_pos (Nat.pow_pos (by decide))
  have same : number.value = (num : ℚ) / den * 10 ^ place := by
    rw [← num_div_den, zpow_eq_div_toNat, isNum, isDen, Nat.pow_eq,
      Nat.pow_eq]
    push_cast
    field_simp
  have atMost : (digits : ℚ) ≤ num / den := Nat.cast_div_le
  have nearly : (num : ℚ) / den < digits + 1 := by
    rw [div_lt_iff₀ (by exact_mod_cast denPositive)]
    have next : num < (digits + 1) * den :=
      (Nat.div_lt_iff_lt_mul denPositive).mp (Nat.lt_succ_self digits)
    exact_mod_cast next
  rw [same]
  constructor <;> gcongr

theorem onGrid?_isSome_of_fine {number : Binary64}
    (positive : 0 < number.mantissa) {place : ℤ}
    (fine : 10 ^ place < number.quarter) :
    (number.onGrid? place).isSome = true := by
  obtain ⟨atMost, nearly⟩ := number.value_between_neighbours place
  have here := readsBack_of_fine positive fine atMost nearly
  simp only [onGrid?, here]
  split <;> first | rfl | contradiction

/-! ## The search -/

theorem le_mul_ten_pow_placesBelow {num den fuel : Nat}
    (enough : den ≤ num * 10 ^ fuel) :
    den ≤ num * 10 ^ placesBelow num den fuel := by
  induction fuel generalizing num with
  | zero => exact enough
  | succ fuel ih =>
      rw [placesBelow]
      split
      · next reached => simpa using reached
      · have later : den ≤ num * 10 * 10 ^ fuel := by
          rwa [Nat.mul_assoc, ← Nat.pow_succ']
        rw [Nat.pow_succ', ← Nat.mul_assoc]
        exact ih later

theorem ten_pow_length_toDigits_le {number : Nat} (nonzero : number ≠ 0) :
    10 ^ ((Nat.toDigits 10 number).length - 1) ≤ number := by
  rcases Nat.eq_zero_or_pos ((Nat.toDigits 10 number).length - 1) with
    single | several
  · rw [single]
    exact Nat.pos_of_ne_zero nonzero
  · by_contra less
    have short := (Nat.length_toDigits_le_iff (by decide) several).mpr
      (Nat.lt_of_not_le less)
    omega

theorem den_le_of_normal {number : Binary64} (normal : number.Normal) :
    number.den ≤ 10 ^ 400 := by
  have least := normal.minExponent_le
  calc number.den = 2 ^ (-number.exponent).toNat := rfl
    _ ≤ 2 ^ 1074 := by
        apply Nat.pow_le_pow_right (by decide)
        simp only [minExponent] at least
        omega
    _ ≤ 10 ^ 400 := by decide +kernel

/-- The number has a digit at its leading place. -/
theorem ten_zpow_leadingPlace_le {number : Binary64} (normal : number.Normal)
    (positive : 0 < number.mantissa) :
    (10 : ℚ) ^ number.leadingPlace ≤ number.value := by
  have denPositive : (0 : ℚ) < number.den := by exact_mod_cast number.den_pos
  rw [← num_div_den, leadingPlace]
  split
  · have one_le : 1 ≤ number.num :=
      Nat.mul_pos positive (Nat.pow_pos (by decide))
    have enough : number.den ≤ number.num * 10 ^ 400 :=
      (den_le_of_normal normal).trans (Nat.le_mul_of_pos_left _ one_le)
    have reached := le_mul_ten_pow_placesBelow enough
    rw [zpow_neg, zpow_natCast, inv_eq_one_div,
      div_le_div_iff₀ (by positivity) denPositive, one_mul]
    exact_mod_cast reached
  · next nonzero =>
      have length : 0 <
          (Nat.toDigits 10 (number.num / number.den)).length :=
        Nat.length_toDigits_pos
      have sameExponent :
          ((Nat.toDigits 10 (number.num / number.den)).length : ℤ) - 1 =
          (((Nat.toDigits 10 (number.num / number.den)).length - 1 : ℕ) :
            ℤ) := by
        omega
      rw [sameExponent, zpow_natCast]
      calc (10 : ℚ) ^
            ((Nat.toDigits 10 (number.num / number.den)).length - 1)
          ≤ (number.num / number.den : ℕ) := by
            exact_mod_cast ten_pow_length_toDigits_le nonzero
        _ ≤ number.num / number.den := Nat.cast_div_le

/-- Nineteen places below the leading digit the grid is fine enough. -/
theorem fine_of_normal {number : Binary64} (normal : number.Normal)
    (positive : 0 < number.mantissa) :
    (10 : ℚ) ^ (number.leadingPlace - 19) < number.quarter := by
  have leading := ten_zpow_leadingPlace_le normal positive
  have mantissa : (number.mantissa : ℚ) < 2 ^ 53 := by
    exact_mod_cast normal.mantissa_lt
  have unit := number.quarter_pos
  calc (10 : ℚ) ^ (number.leadingPlace - 19)
      = 10 ^ number.leadingPlace / 10 ^ 19 := by
        rw [zpow_sub₀ (by norm_num)]
        norm_num
    _ ≤ number.value / 10 ^ 19 := by gcongr
    _ = 4 * number.mantissa / 10 ^ 19 * number.quarter := by
        rw [value_eq_quarters]
        ring
    _ < 1 * number.quarter := by
        gcongr
        rw [div_lt_one (by norm_num)]
        linarith
    _ = number.quarter := one_mul _

theorem shortestFrom_readsBack {number : Binary64} {place : ℤ}
    {fuel step : Nat} (within : step < fuel)
    (hit : (number.onGrid? (place - step)).isSome = true) :
    let found := number.shortestFrom place fuel
    number.readsBack found.digits found.exponent = true := by
  -- Either this grid has a decimal, or the hit is one step nearer.
  induction fuel generalizing place step with
  | zero => contradiction
  | succ fuel ih =>
      rw [shortestFrom]
      cases here : number.onGrid? place with
      | some digits => exact onGrid?_readsBack here
      | none =>
          cases step with
          | zero => simp [here] at hit
          | succ step =>
              apply ih (Nat.lt_of_succ_lt_succ within)
              rwa [Nat.cast_succ, add_comm, ← sub_sub] at hit

theorem readsBack_drop_zero {number : Binary64} {digits : Nat} {place : ℤ}
    (readBack : number.readsBack digits place = true)
    (final : digits % 10 = 0) :
    number.readsBack (digits / 10) (place + 1) = true := by
  obtain ⟨shorter, rfl⟩ := Nat.dvd_of_mod_eq_zero final
  have same : ((10 * shorter : ℕ) : ℚ) * 10 ^ place =
      shorter * 10 ^ (place + 1) := by
    rw [zpow_add_one₀ (by norm_num)]
    push_cast
    ring
  rw [readsBack_iff, same] at readBack
  rwa [Nat.mul_div_cancel_left _ (by decide), readsBack_iff]

/-- The shortest decimal of a positive double rounds to it. -/
theorem shortest_readsBack {number : Binary64} (normal : number.Normal)
    (positive : 0 < number.mantissa) :
    number.readsBack number.shortest.digits number.shortest.exponent =
      true := by
  have hit := onGrid?_isSome_of_fine positive (fine_of_normal normal positive)
  have found := shortestFrom_readsBack (show 19 < 20 by decide) hit
  simp only [shortest, positive.ne', if_false]
  split
  · next final => exact readsBack_drop_zero found final
  · exact found

theorem shortest_digits_eq_zero_iff {number : Binary64}
    (normal : number.Normal) :
    number.shortest.digits = 0 ↔ number.mantissa = 0 := by
  constructor
  · intro noDigits
    by_contra nonzero
    have positive := Nat.pos_of_ne_zero nonzero
    have readBack := shortest_readsBack normal positive
    rw [noDigits, readsBack_iff] at readBack
    simpa using readBack.pos positive
  · intro isZero
    simp [shortest, isZero]

end Binary64

end AccessAudit
