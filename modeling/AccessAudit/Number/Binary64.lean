import AccessAudit.Number.Rounding

/-!
# Double-precision numbers

A non-negative finite double is a natural number below `2 ^ 53` times a power
of two.  Quotients are rounded to such a number, to the nearest one and on a
tie to the even one, which is how rates of compliance are computed.
-/

namespace AccessAudit

/-- The number `mantissa * 2 ^ exponent`. -/
structure Binary64 where
  mantissa : Nat
  exponent : Int
deriving DecidableEq, Repr

namespace Binary64

def zero : Binary64 := ⟨0, 0⟩

/-- The least exponent of a double. -/
def minExponent : Int := -1074

/-- The greatest exponent of a finite double. -/
def maxExponent : Int := 971

/-- The numerator of the number as a fraction. -/
def num (number : Binary64) : Nat :=
  number.mantissa * Nat.pow 2 number.exponent.toNat

/-- The denominator of the number as a fraction. -/
def den (number : Binary64) : Nat :=
  Nat.pow 2 (-number.exponent).toNat

/-- The nearest integer to `num / den / 2 ^ exponent`. -/
def scaledRound (num den : Nat) (exponent : Int) : Nat :=
  roundDiv (num * Nat.pow 2 (-exponent).toNat)
    (den * Nat.pow 2 exponent.toNat)

/-- The exponent at which `num / den` has 53 digits before the point, bounded
from below. -/
def exponentFor (num den : Nat) : Int :=
  let guess : Int := (num.log2 : Int) - (den.log2 : Int) - 52
  let whole :=
    num * Nat.pow 2 (-guess).toNat / (den * Nat.pow 2 guess.toNat)
  max minExponent (if whole < Nat.pow 2 52 then guess - 1 else guess)

/-- The double nearest to `num / den`, in normal form. -/
def ofQuotient (num den : Nat) : Binary64 :=
  if num = 0 then zero
  else
    let exponent := exponentFor num den
    let mantissa := scaledRound num den exponent
    if mantissa = Nat.pow 2 53 then ⟨Nat.pow 2 52, exponent + 1⟩
    else if mantissa = 0 then zero
    else ⟨mantissa, exponent⟩

/-- The double nearest to a natural number. -/
def ofNat (number : Nat) : Binary64 :=
  ofQuotient number 1

/-- The rounded quotient of two doubles. -/
def div (a b : Binary64) : Binary64 :=
  ofQuotient (a.num * b.den) (a.den * b.num)

/-- The rounded product of two doubles. -/
def mul (a b : Binary64) : Binary64 :=
  ofQuotient (a.num * b.num) (a.den * b.den)

/-- Is the number too large for a finite double? -/
def overflows (number : Binary64) : Bool :=
  maxExponent < number.exponent

example : ofQuotient 1 3 = ⟨6004799503160661, -54⟩ := by decide +kernel

end Binary64

end AccessAudit
