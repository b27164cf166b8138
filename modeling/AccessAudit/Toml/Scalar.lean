import AccessAudit.Text.DecimalDigit
import AccessAudit.Text.Digit
import AccessAudit.Toml.Value

/-!
# TOML words as values

Booleans, numbers, dates and times.  Underscores may stand between the digits
of a number, decimal integers have no leading zeros, and dates have to exist.
-/

namespace AccessAudit

namespace Toml

/-! ## Numbers -/

/-- The digits of a number without the underscores between them.  An
underscore needs a digit on both sides. -/
def ungrouped? (text : Text) : Option Text :=
  let groups := Text.pieces '_' text
  if groups.any List.isEmpty then none else some groups.flatten

/-- A number in some base with leading zeros allowed. -/
def natural? (base : Nat) (text : Text) : Option Nat :=
  match ungrouped? text with
  | some digits => Text.readDigits? base 0 digits
  | none => none

/-- A decimal number without leading zeros. -/
def decimal? : Text → Option Nat
  | '0' :: _ :: _ => none
  | text => natural? 10 text

/-- The sign in front of a number, and whether it is a minus. -/
def splitSign : Text → Bool × Text
  | '-' :: rest => (true, rest)
  | '+' :: rest => (false, rest)
  | text => (false, text)

/-- The integer with a sign and a magnitude. -/
def signedInteger (negative : Bool) (magnitude : Nat) : Int :=
  if negative then -(magnitude : Int) else magnitude

/-- An integer: decimal with a sign, or without one in another base. -/
def integer? : Text → Option Int
  | '0' :: 'x' :: digits => (natural? 16 digits).map Int.ofNat
  | '0' :: 'o' :: digits => (natural? 8 digits).map Int.ofNat
  | '0' :: 'b' :: digits => (natural? 2 digits).map Int.ofNat
  | text =>
      let (negative, digits) := splitSign text
      (decimal? digits).map (signedInteger negative)

/-- The decimal exponent beyond which every number is too large or zero. -/
def exponentBound : Int := 400

/-- The double nearest to `digits * 10 ^ exponent`. -/
def nearestDouble (digits : Nat) (exponent : Int) : Binary64 :=
  let magnitude := exponent + (Nat.toDigits 10 digits).length
  if digits = 0 || magnitude < -exponentBound then .zero
  else if exponentBound < magnitude then
    ⟨Nat.pow 2 52, Binary64.maxExponent + 1⟩
  else
    .ofQuotient (digits * Nat.pow 10 exponent.toNat)
      (Nat.pow 10 (-exponent).toNat)

/-- The text before and after the first character that satisfies a test, if
there is one. -/
def splitAt? (isSplit : Char → Bool) (text : Text) :
    Text × Option Text :=
  match text.dropWhile (!isSplit ·) with
  | [] => (text, none)
  | _ :: after => (text.takeWhile (!isSplit ·), some after)

/-- A decimal exponent with its sign; no exponent counts as zero. -/
def exponent? : Option Text → Option Int
  | none => some 0
  | some text =>
      let (negative, digits) := splitSign text
      (natural? 10 digits).map (signedInteger negative)

/-- The digits after the point; no point counts as no digits. -/
def fraction? : Option Text → Option Text
  | none => some []
  | some text =>
      (ungrouped? text).filter (·.all Text.isAsciiDigit)

/-- The magnitude of a finite float with a fraction, an exponent or both. -/
def magnitude? (text : Text) : Option Binary64 :=
  let (front, exponent) := splitAt? (fun c => c = 'e' || c = 'E') text
  let (whole, fraction) := splitAt? (· = '.') front
  if exponent.isNone && fraction.isNone then none
  else
    match decimal? whole, fraction? fraction, exponent? exponent with
    | some whole, some fraction, some exponent =>
        (Text.readDigits? 10 whole fraction).map fun digits =>
          nearestDouble digits (exponent - fraction.length)
    | _, _, _ => none

def float? (text : Text) : Option FloatValue :=
  let (negative, rest) := splitSign text
  if rest = "inf".toList then some (.infinite negative)
  else if rest = "nan".toList then some .notANumber
  else (magnitude? rest).map (.finite negative)

/-! ## Dates and times -/

/-- The number of days in a month. -/
def daysIn (year month : Nat) : Nat :=
  if month = 2 then
    if year % 4 = 0 && (year % 100 != 0 || year % 400 = 0) then 29 else 28
  else if [4, 6, 9, 11].contains month then 30
  else 31

/-- The text after a date that exists. -/
def afterDate? (text : Text) : Option Text :=
  match Text.readFixed? 10 4 text with
  | some (year, '-' :: text) =>
      match Text.readFixed? 10 2 text with
      | some (month, '-' :: text) =>
          match Text.readFixed? 10 2 text with
          | some (day, rest) =>
              if 1 ≤ month && month ≤ 12 && 1 ≤ day &&
                  day ≤ daysIn year month then
                some rest
              else none
          | none => none
      | _ => none
  | _ => none

/-- The text after a fraction of a second, if there is one. -/
def afterFraction? : Text → Option Text
  | '.' :: rest =>
      if (rest.takeWhile Text.isAsciiDigit).isEmpty then none
      else some (rest.dropWhile Text.isAsciiDigit)
  | rest => some rest

/-- The text after seconds, if there are any.  A leap second is allowed. -/
def afterSeconds? : Text → Option Text
  | ':' :: text =>
      match Text.readFixed? 10 2 text with
      | some (second, rest) =>
          if second ≤ 60 then afterFraction? rest else none
      | none => none
  | rest => some rest

/-- Hours and minutes in front of a text. -/
def readClock? (text : Text) : Option (Nat × Nat × Text) :=
  match Text.readFixed? 10 2 text with
  | some (hour, ':' :: text) =>
      (Text.readFixed? 10 2 text).map fun (minute, rest) => (hour, minute, rest)
  | _ => none

/-- The text after a time of the day. -/
def afterTime? (text : Text) : Option Text :=
  match readClock? text with
  | some (hour, minute, rest) =>
      if hour ≤ 23 && minute ≤ 59 then afterSeconds? rest else none
  | none => none

/-- Is the text nothing, or the offset of a time zone? -/
def isOffset : Text → Bool
  | [] => true
  | [c] => c = 'Z' || c = 'z'
  | c :: text =>
      (c = '+' || c = '-') &&
        match readClock? text with
        | some (hour, minute, []) => hour ≤ 23 && minute ≤ 59
        | _ => false

/-- Is the text a time of the day without a time zone? -/
def isTime (text : Text) : Bool :=
  afterTime? text == some []

/-- Is the text a date, a time, or a date with a time? -/
def isDateTime (text : Text) : Bool :=
  isTime text ||
    match afterDate? text with
    | none => false
    | some [] => true
    | some (c :: text) =>
        (c = 'T' || c = 't' || c = ' ') &&
          match afterTime? text with
          | some offset => isOffset offset
          | none => false

/-! ## Words -/

/-- The value that words stand for. -/
def scalar? (text : Text) : Option Value :=
  if text = "true".toList then some (.boolean true)
  else if text = "false".toList then some (.boolean false)
  else
    match integer? text with
    | some value => some (.integer value)
    | none =>
        match float? text with
        | some value => some (.float value)
        | none => if isDateTime text then some (.dateTime text) else none

end Toml

end AccessAudit
