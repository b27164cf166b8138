import AccessAudit.Text.Basic

/-!
# Numbers in positional notation

Digits up to base 16, in either case, and the numbers they write.
-/

namespace AccessAudit

namespace Text

/-- The value of a digit in some base up to 16. -/
def digitValue? (base : Nat) (c : Char) : Option Nat :=
  let value? :=
    if '0' ≤ c && c ≤ '9' then some (c.toNat - '0'.toNat)
    else if 'a' ≤ c && c ≤ 'f' then some (c.toNat - 'a'.toNat + 10)
    else if 'A' ≤ c && c ≤ 'F' then some (c.toNat - 'A'.toNat + 10)
    else none
  value?.filter (· < base)

/-- The number whose digits are those of `start` and then those of a text. -/
def readDigits? (base start : Nat) : Text → Option Nat
  | [] => some start
  | c :: rest =>
      match digitValue? base c with
      | some digit => readDigits? base (base * start + digit) rest
      | none => none

/-- A number of exactly `count` digits in front of a text. -/
def readFixed? (base count : Nat) (text : Text) : Option (Nat × Text) :=
  let digits := text.take count
  if digits.length = count then
    (readDigits? base 0 digits).map (·, text.drop count)
  else none

example : readDigits? 16 0 "1f".toList = some 31 := by decide

example : readFixed? 10 2 "07:30".toList = some (7, ":30".toList) := by
  decide

end Text

end AccessAudit
