import AccessAudit.Tally
import Mathlib.Algebra.Order.Field.Power
import Mathlib.Data.Rat.Cast.Order
import Mathlib.Tactic.GCongr
import Mathlib.Tactic.Linarith
import Mathlib.Tactic.Positivity
import Mathlib.Tactic.Ring

/-!
# Doubles in normal form

Every rounded quotient is in normal form: its mantissa has at most 53 binary
digits and its exponent is that of a double or more.  So are the rates of
compliance.
-/

namespace AccessAudit

theorem zpow_eq_div_toNat (base : ℚ) (exponent : ℤ) :
    base ^ exponent = base ^ exponent.toNat / base ^ (-exponent).toNat := by
  rcases Int.eq_nat_or_neg exponent with ⟨size, rfl | rfl⟩
  · simp
  · simp

theorem roundDiv_eq_or (num den : Nat) :
    roundDiv num den = num / den ∨ roundDiv num den = num / den + 1 := by
  simp only [roundDiv]
  split
  · exact Or.inl rfl
  · split
    · exact Or.inr rfl
    · rcases Nat.mod_two_eq_zero_or_one (num / den) with even | odd
      · exact Or.inl (by rw [even, Nat.add_zero])
      · exact Or.inr (by rw [odd])

theorem roundDiv_le_of_lt {num den bound : Nat}
    (below : num < bound * den) : roundDiv num den ≤ bound := by
  have quotient : num / den < bound := by
    apply Nat.div_lt_of_lt_mul
    rwa [Nat.mul_comm]
  rcases roundDiv_eq_or num den with same | same <;> omega

namespace Binary64

/-- The number as a fraction. -/
def value (number : Binary64) : ℚ :=
  number.mantissa * 2 ^ number.exponent

theorem den_pos (number : Binary64) : 0 < number.den :=
  Nat.pow_pos (by decide)

theorem num_div_den (number : Binary64) :
    (number.num : ℚ) / number.den = number.value := by
  rw [value, zpow_eq_div_toNat, num, den, Nat.pow_eq,
    Nat.pow_eq]
  push_cast
  ring

/-- The mantissa has at most 53 binary digits, the exponent is that of a
double or more, and there is one zero. -/
structure Normal (number : Binary64) : Prop where
  mantissa_lt : number.mantissa < 2 ^ 53
  minExponent_le : minExponent ≤ number.exponent
  exponent_of_zero : number.mantissa = 0 → number.exponent = 0

theorem scaled_div (num den : Nat) (exponent : ℤ) :
    ((num * Nat.pow 2 (-exponent).toNat : ℕ) : ℚ) /
        (den * Nat.pow 2 exponent.toNat : ℕ) =
      num / den / 2 ^ exponent := by
  rw [zpow_eq_div_toNat, Nat.pow_eq, Nat.pow_eq, div_div_eq_mul_div]
  push_cast
  rw [div_mul_eq_mul_div, div_div]

theorem scaled_den_pos {den : Nat} (positive : 0 < den) (exponent : ℤ) :
    0 < den * Nat.pow 2 exponent.toNat :=
  Nat.mul_pos positive (Nat.pow_pos (by decide))

theorem scaled_lt_iff {num den bound : Nat} (positive : 0 < den)
    (exponent : ℤ) :
    num * Nat.pow 2 (-exponent).toNat <
        bound * (den * Nat.pow 2 exponent.toNat) ↔
      (num : ℚ) / den < bound * 2 ^ exponent := by
  have unit : (0 : ℚ) < (den * Nat.pow 2 exponent.toNat : ℕ) := by
    exact_mod_cast scaled_den_pos positive exponent
  rw [← div_lt_iff₀ (by positivity), ← scaled_div, div_lt_iff₀ unit]
  exact_mod_cast Iff.rfl

/-- The quotient has at most 53 binary digits before the point at its
exponent. -/
theorem div_lt_exponentFor {num den : Nat} (positive : 0 < den) :
    (num : ℚ) / den < 2 ^ 53 * 2 ^ exponentFor num den := by
  have two : (1 : ℚ) ≤ 2 := by norm_num
  set guess : ℤ := (num.log2 : ℤ) - (den.log2 : ℤ) - 52 with isGuess
  have atGuess : (num : ℚ) / den < 2 ^ 53 * 2 ^ guess := by
    have above : (num : ℚ) < 2 ^ (num.log2 + 1) := by
      exact_mod_cast Nat.lt_log2_self
    have below : (2 : ℚ) ^ den.log2 ≤ den := by
      exact_mod_cast Nat.log2_self_le positive.ne'
    have denPositive : (0 : ℚ) < 2 ^ den.log2 := by positivity
    calc (num : ℚ) / den
        ≤ num / 2 ^ den.log2 := by gcongr
      _ < 2 ^ (num.log2 + 1) / 2 ^ den.log2 := by gcongr
      _ = 2 ^ 53 * 2 ^ guess := by
          rw [← zpow_natCast, ← zpow_natCast, ← zpow_natCast,
            ← zpow_sub₀ (by norm_num), ← zpow_add₀ (by norm_num)]
          congr 1
          push_cast
          omega
  have chosen : ∀ exponent : ℤ, (num : ℚ) / den < 2 ^ 53 * 2 ^ exponent →
      (num : ℚ) / den < 2 ^ 53 * 2 ^ max minExponent exponent := by
    intro exponent fits
    calc (num : ℚ) / den < 2 ^ 53 * 2 ^ exponent := fits
      _ ≤ 2 ^ 53 * 2 ^ max minExponent exponent := by
          gcongr
          exact le_max_right _ _
  rw [exponentFor, ← isGuess]
  apply chosen
  split
  · next short =>
      have unit := scaled_den_pos positive guess
      calc (num : ℚ) / den < (Nat.pow 2 52 : ℕ) * 2 ^ guess := by
            apply (scaled_lt_iff positive guess).mp
            exact Nat.lt_mul_of_div_lt short unit
        _ = 2 ^ 53 * 2 ^ (guess - 1) := by
            rw [zpow_sub_one₀ (by norm_num), Nat.pow_eq]
            push_cast
            ring
  · exact atGuess

theorem minExponent_le_exponentFor (num den : Nat) :
    minExponent ≤ exponentFor num den :=
  le_max_left _ _

theorem scaledRound_exponentFor_le (num : Nat) {den : Nat}
    (positive : 0 < den) :
    scaledRound num den (exponentFor num den) ≤ 2 ^ 53 := by
  apply roundDiv_le_of_lt
  apply (scaled_lt_iff positive _).mpr
  push_cast
  exact div_lt_exponentFor positive

theorem normal_ofQuotient {num den : Nat} (positive : 0 < den) :
    (ofQuotient num den).Normal := by
  have normalZero : zero.Normal := ⟨by decide, by decide, fun _ => rfl⟩
  have fits := scaledRound_exponentFor_le num positive
  have least := minExponent_le_exponentFor num den
  simp only [ofQuotient, Nat.pow_eq]
  split
  · exact normalZero
  · split
    · constructor
      · exact Nat.pow_lt_pow_right (by decide) (by decide)
      · exact le_add_of_le_of_nonneg least (by decide)
      · intro isZero
        contradiction
    · next notCarried =>
        split
        · exact normalZero
        · next nonzero =>
            constructor
            · exact lt_of_le_of_ne fits notCarried
            · exact least
            · intro isZero
              contradiction

theorem normal_mul (a b : Binary64) : (a.mul b).Normal :=
  normal_ofQuotient (Nat.mul_pos a.den_pos b.den_pos)

end Binary64

theorem Tally.normal_complianceRate? {tally : Tally} {rate : Binary64}
    (found : tally.complianceRate? = some rate) : rate.Normal := by
  simp only [complianceRate?] at found
  split at found
  · cases found
  · cases found
    exact Binary64.normal_mul _ _

end AccessAudit
