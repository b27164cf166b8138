/-!
# Rounding quotients

Division of natural numbers rounded to the nearest integer, where a tie goes
to the even neighbour.  `roundDiv_error` bounds the error by half a unit.
-/

namespace AccessAudit

/-- The integer nearest to `num / den`, the even one of two nearest. -/
def roundDiv (num den : Nat) : Nat :=
  let quotient := num / den
  let twice := 2 * (num % den)
  if twice < den then quotient
  else if den < twice then quotient + 1
  else quotient + quotient % 2

/-- The rounded quotient is off by half a unit at most. -/
theorem roundDiv_error (num den : Nat) (positive : 0 < den) :
    2 * (roundDiv num den * den) ≤ 2 * num + den ∧
      2 * num ≤ 2 * (roundDiv num den * den) + den := by
  have split : den * (num / den) + num % den = num := Nat.div_add_mod num den
  have small : num % den < den := Nat.mod_lt num positive
  have commute : num / den * den = den * (num / den) := Nat.mul_comm _ _
  simp only [roundDiv]
  split
  · omega
  · have above : (num / den + 1) * den = den * (num / den) + den := by
      rw [Nat.add_mul, commute, Nat.one_mul]
    split
    · omega
    · rcases Nat.mod_two_eq_zero_or_one (num / den) with even | odd
      · rw [even, Nat.add_zero]
        omega
      · rw [odd]
        omega

end AccessAudit
