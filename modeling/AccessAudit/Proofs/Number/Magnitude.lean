import AccessAudit.Proofs.Number.Normal
import Mathlib.Tactic.FieldSimp

/-!
# The size of rounded quotients

A rounded quotient is at most twice the quotient, and the double of a positive
number is at least half of it.  So a rate of compliance, whatever the counts
are, is far from the greatest finite double.
-/

namespace AccessAudit

theorem roundDiv_le_two_mul (num : Nat) {den : Nat} (positive : 0 < den) :
    (roundDiv num den : ℚ) ≤ 2 * (num / den) := by
  have ⟨error, _⟩ := roundDiv_error num den positive
  have twice : roundDiv num den * den ≤ 2 * num := by
    rcases Nat.eq_zero_or_pos (roundDiv num den) with isZero | atLeastOne
    · simp [isZero]
    · have whole : den ≤ roundDiv num den * den :=
        Nat.le_mul_of_pos_left den atLeastOne
      omega
  rw [← mul_div_assoc, le_div_iff₀ (by exact_mod_cast positive)]
  exact_mod_cast twice

theorem le_two_mul_roundDiv {num den : Nat} (positive : 0 < den)
    (atLeastOne : den ≤ num) : (num / den : ℚ) ≤ 2 * roundDiv num den := by
  have ⟨_, error⟩ := roundDiv_error num den positive
  have half : num ≤ 2 * roundDiv num den * den := by
    rw [Nat.mul_assoc]
    omega
  rw [div_le_iff₀ (by exact_mod_cast positive)]
  exact_mod_cast half

namespace Binary64

theorem value_nonneg (number : Binary64) : 0 ≤ number.value := by
  unfold value
  positivity

theorem value_ofQuotient (num den : Nat) :
    (ofQuotient num den).value =
      scaledRound num den (exponentFor num den) *
        2 ^ exponentFor num den := by
  simp only [ofQuotient]
  split
  · next isZero =>
      simp [isZero, value, zero, scaledRound, roundDiv]
  · split
    · next carried =>
        rw [carried, value, zpow_add_one₀ (by norm_num), Nat.pow_eq,
          Nat.pow_eq]
        push_cast
        ring
    · split
      · next isZero => simp [isZero, value, zero]
      · rfl

/-- Rounding at most doubles a quotient. -/
theorem value_ofQuotient_le {num den : Nat} (positive : 0 < den) :
    (ofQuotient num den).value ≤ 2 * (num / den) := by
  have rounded := roundDiv_le_two_mul
    (num * Nat.pow 2 (-exponentFor num den).toNat)
    (scaled_den_pos positive (exponentFor num den))
  rw [scaled_div] at rounded
  calc (ofQuotient num den).value
      = scaledRound num den (exponentFor num den) *
          2 ^ exponentFor num den := value_ofQuotient num den
    _ ≤ 2 * (num / den / 2 ^ exponentFor num den) *
          2 ^ exponentFor num den := by
        gcongr
        exact rounded
    _ = 2 * (num / den) := by field_simp

theorem value_ofNat_le (number : Nat) :
    (ofNat number).value ≤ 2 * number := by
  calc (ofNat number).value ≤ 2 * (number / (1 : ℕ)) :=
        value_ofQuotient_le Nat.one_pos
    _ = 2 * number := by rw [Nat.cast_one, div_one]

theorem exponentFor_one_le (number : Nat) :
    exponentFor number 1 ≤ number.log2 := by
  have one : Nat.log2 1 = 0 := by decide
  simp only [exponentFor, one, minExponent]
  split <;> omega

/-- The double of a natural number is at least half of it. -/
theorem le_two_mul_value_ofNat (number : Nat) :
    (number : ℚ) ≤ 2 * (ofNat number).value := by
  rcases Nat.eq_zero_or_pos number with isZero | positive
  · simp [isZero, value_nonneg]
  · set exponent := exponentFor number 1 with isExponent
    have small : (2 : ℚ) ^ exponent ≤ number := by
      calc (2 : ℚ) ^ exponent ≤ 2 ^ (number.log2 : ℤ) := by
            gcongr
            · norm_num
            · exact exponentFor_one_le number
        _ = (2 ^ number.log2 : ℕ) := by push_cast; rfl
        _ ≤ number := by exact_mod_cast Nat.log2_self_le positive.ne'
    have digits : 1 * Nat.pow 2 exponent.toNat ≤
        number * Nat.pow 2 (-exponent).toNat := by
      apply le_of_not_gt
      intro less
      have short : (number : ℚ) / (1 : ℕ) < (1 : ℕ) * 2 ^ exponent := by
        apply (scaled_lt_iff (by decide) exponent).mp
        rwa [Nat.one_mul]
      push_cast at short
      linarith
    have rounded := le_two_mul_roundDiv
      (scaled_den_pos (by decide) exponent) digits
    rw [scaled_div] at rounded
    calc (number : ℚ)
        = number / (1 : ℕ) / 2 ^ exponent * 2 ^ exponent := by
          push_cast
          field_simp
      _ ≤ 2 * scaledRound number 1 exponent * 2 ^ exponent := by
          gcongr
          exact rounded
      _ = 2 * (ofNat number).value := by
          rw [ofNat, value_ofQuotient]
          ring

theorem value_div_le {a b : Binary64} (positive : 0 < b.num) :
    (a.div b).value ≤ 2 * (a.value / b.value) := by
  calc (a.div b).value
      ≤ 2 * ((a.num * b.den : ℕ) / (a.den * b.num : ℕ)) :=
        value_ofQuotient_le (Nat.mul_pos a.den_pos positive)
    _ = 2 * (a.value / b.value) := by
        rw [← num_div_den, ← num_div_den, div_div_div_eq]
        push_cast
        rfl

theorem value_mul_le (a b : Binary64) :
    (a.mul b).value ≤ 2 * (a.value * b.value) := by
  calc (a.mul b).value
      ≤ 2 * ((a.num * b.num : ℕ) / (a.den * b.den : ℕ)) :=
        value_ofQuotient_le (Nat.mul_pos a.den_pos b.den_pos)
    _ = 2 * (a.value * b.value) := by
        rw [← num_div_den, ← num_div_den, div_mul_div_comm]
        push_cast
        rfl

theorem value_pos_iff (number : Binary64) :
    0 < number.value ↔ 0 < number.num := by
  rw [← num_div_den, div_pos_iff_of_pos_right
    (by exact_mod_cast number.den_pos), Nat.cast_pos]

/-- Every rounding at most doubles, and the double of the whole is at least
half of it. -/
theorem value_percentage_le {part whole : Nat} (positive : 0 < whole)
    (among : part ≤ whole) :
    (((ofNat part).div (ofNat whole)).mul (ofNat 100)).value ≤ 3200 := by
  have wholePositive : (0 : ℚ) < whole := by exact_mod_cast positive
  have half := le_two_mul_value_ofNat whole
  have roundPositive : 0 < (ofNat whole).value := by linarith
  have share : (ofNat part).value / (ofNat whole).value ≤ 4 := by
    rw [div_le_iff₀ roundPositive]
    calc (ofNat part).value ≤ 2 * part := value_ofNat_le part
      _ ≤ 2 * whole := by gcongr
      _ ≤ 4 * (ofNat whole).value := by linarith
  have quotient : ((ofNat part).div (ofNat whole)).value ≤ 8 := by
    have rounded := value_div_le (a := ofNat part)
      ((value_pos_iff _).mp roundPositive)
    linarith
  calc (((ofNat part).div (ofNat whole)).mul (ofNat 100)).value
      ≤ 2 * (((ofNat part).div (ofNat whole)).value *
          (ofNat 100).value) := value_mul_le _ _
    _ ≤ 2 * (8 * (2 * (100 : ℕ))) := by
        gcongr
        · exact value_nonneg _
        · exact value_ofNat_le 100
    _ = 3200 := by norm_num

theorem Normal.exponent_lt {number : Binary64} (normal : number.Normal)
    {bound : ℤ} (positive : 0 < bound) (small : number.value < 2 ^ bound) :
    number.exponent < bound := by
  rcases Nat.eq_zero_or_pos number.mantissa with isZero | nonzero
  · rw [normal.exponent_of_zero isZero]
    exact positive
  · have atLeastOne : (1 : ℚ) ≤ number.mantissa := by exact_mod_cast nonzero
    have below : (2 : ℚ) ^ number.exponent < 2 ^ bound := by
      calc (2 : ℚ) ^ number.exponent
          ≤ number.mantissa * 2 ^ number.exponent :=
            le_mul_of_one_le_left (by positivity) atLeastOne
        _ < 2 ^ bound := small
    exact (zpow_lt_zpow_iff_right₀ (by norm_num)).mp below

end Binary64

theorem Tally.complianceRate?_overflows {tally : Tally} {rate : Binary64}
    (found : tally.complianceRate? = some rate) : rate.overflows = false := by
  have normal := normal_complianceRate? found
  simp only [complianceRate?] at found
  split at found
  · cases found
  · next actionable =>
      cases found
      have among : tally.compliant ≤ tally.actionable := by
        rw [Tally.actionable]
        omega
      have small := Binary64.value_percentage_le
        (Nat.pos_of_ne_zero actionable) among
      have exponent := normal.exponent_lt (show 0 < (12 : ℤ) by decide)
        (small.trans_lt (by norm_num))
      rw [Binary64.overflows, decide_eq_false_iff_not, Binary64.maxExponent]
      omega

end AccessAudit
