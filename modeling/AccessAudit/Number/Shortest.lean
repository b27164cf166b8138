import AccessAudit.Number.Binary64
import AccessAudit.Text.Basic

/-!
# Decimal forms of doubles

The shortest decimal that reads back as a given double, and its written
forms: with an exponent for small numbers, or positional throughout.
`Binary64.fixedOne` writes a number with one decimal place.
-/

namespace AccessAudit

/-- The number `digits * 10 ^ exponent`. -/
structure Decimal where
  digits : Nat
  exponent : Int
deriving DecidableEq, Repr

namespace Binary64

/-- The bounds of the numbers that round to a positive double, in quarters of
the unit of its last place. -/
def bounds (number : Binary64) : Nat × Nat :=
  let middle := 4 * number.mantissa
  let isPowerStep :=
    number.mantissa == Nat.pow 2 52 && number.exponent != minExponent
  (if isPowerStep then middle - 1 else middle - 2, middle + 2)

/-- Does `digits * 10 ^ place` round to the double?  The bounds themselves do
exactly when the mantissa is even. -/
def readsBack (number : Binary64) (digits : Nat) (place : Int) : Bool :=
  let shift := number.exponent - 2
  let scaled :=
    digits * Nat.pow 10 place.toNat * Nat.pow 2 (-shift).toNat
  let unit := Nat.pow 10 (-place).toNat * Nat.pow 2 shift.toNat
  let (low, high) := number.bounds
  if number.mantissa % 2 = 0 then
    low * unit ≤ scaled && scaled ≤ high * unit
  else
    low * unit < scaled && scaled < high * unit

/-- How often `num` has to be multiplied by ten to reach `den`; `fuel` bounds
the search. -/
def placesBelow (num den : Nat) : (fuel : Nat) → Nat
  | 0 => 0
  | fuel + 1 =>
      if den ≤ num then 0 else placesBelow (num * 10) den fuel + 1

/-- The decimal place of the first digit of a positive number. -/
def leadingPlace (number : Binary64) : Int :=
  let whole := number.num / number.den
  if whole = 0 then
    -(placesBelow number.num number.den 400 : Int)
  else
    ((Nat.toDigits 10 whole).length : Int) - 1

/-- Of the two neighbours of a positive double on the grid `10 ^ place`, the
nearest that reads back. -/
def onGrid? (number : Binary64) (place : Int) : Option Nat :=
  let num := number.num * Nat.pow 10 (-place).toNat
  let den := number.den * Nat.pow 10 place.toNat
  let below := num / den
  match number.readsBack below place, number.readsBack (below + 1) place with
  | true, false => some below
  | false, true => some (below + 1)
  | false, false => none
  | true, true => some (roundDiv num den)

/-- The first grid that holds a decimal which reads back, from the place of
the leading digit downwards. -/
def shortestFrom (number : Binary64) (place : Int) : (fuel : Nat) → Decimal
  | 0 => ⟨number.num / number.den, 0⟩
  | fuel + 1 =>
      match number.onGrid? place with
      | some digits => ⟨digits, place⟩
      | none => shortestFrom number (place - 1) fuel

/-- The shortest decimal that reads back as the number, and the nearest of
those. -/
def shortest (number : Binary64) : Decimal :=
  if number.mantissa = 0 then ⟨0, 0⟩
  else
    let found := number.shortestFrom number.leadingPlace 20
    if found.digits % 10 = 0 then ⟨found.digits / 10, found.exponent + 1⟩
    else found

/-- The number with one decimal place, ties to even. -/
def fixedOne (number : Binary64) : Text :=
  let tenths := roundDiv (number.num * 10) number.den
  Text.ofNat (tenths / 10) ++ "." ++ Text.ofNat (tenths % 10)

end Binary64

namespace Decimal

/-- Positional notation with at least one digit on both sides of the
point. -/
def positional (decimal : Decimal) : Text :=
  let digits := Text.ofNat decimal.digits
  match decimal.exponent with
  | .ofNat zeros => digits ++ Text.repeated zeros '0' ++ ".0"
  | .negSucc less =>
      let places := less + 1
      if digits.length ≤ places then
        "0." ++ Text.repeated (places - digits.length) '0' ++ digits
      else
        digits.take (digits.length - places) ++ "." ++
          digits.drop (digits.length - places)

/-- Scientific notation: one digit before the point, and the exponent after
the letter `e`. -/
def scientific (decimal : Decimal) : Text :=
  let digits := Text.ofNat decimal.digits
  let exponent := decimal.exponent + (digits.length - 1 : Nat)
  let power : Text :=
    match exponent with
    | .ofNat power => Text.ofNat power
    | .negSucc less => "-" ++ Text.ofNat (less + 1)
  digits.take 1 ++
    (if digits.length = 1 then [] else '.' :: digits.drop 1) ++ "e" ++ power

/-- The notation of numbers in reports: positional from `0.00001` up to 16
digits before the point, else scientific. -/
def report (decimal : Decimal) : Text :=
  let point := decimal.exponent + (Text.ofNat decimal.digits).length
  if decimal.digits = 0 || (-5 < point && point ≤ 16) then
    positional decimal
  else
    scientific decimal

end Decimal

example : (Binary64.ofQuotient 100 3).shortest.report =
    "33.333333333333336".toList := by decide +kernel

example : (Binary64.ofQuotient 1 10000000).shortest.report =
    "1e-7".toList := by decide +kernel

example : (Binary64.ofQuotient 25 4).fixedOne = "6.2".toList := by
  decide +kernel

end AccessAudit
