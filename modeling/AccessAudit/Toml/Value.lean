import AccessAudit.Number.Shortest
import AccessAudit.Text.Quoted

/-!
# TOML values

The values of a configuration document.  A table keeps its entries in the
order of the document.  `Value.description` names a value in the messages
that reject it.
-/

namespace AccessAudit

namespace Toml

inductive FloatValue
  | finite (negative : Bool) (magnitude : Binary64)
  | infinite (negative : Bool)
  | notANumber
deriving DecidableEq, Repr

/-- A value of a document.  A date or time is kept as it is written. -/
inductive Value
  | string (value : Text)
  | integer (value : Int)
  | float (value : FloatValue)
  | boolean (value : Bool)
  | dateTime (written : Text)
  | array (items : List Value)
  | table (entries : List (Text × Value))

/-- A document is the table at its top. -/
abbrev Document := List (Text × Value)

def writeInteger (value : Int) : Text :=
  match value with
  | .ofNat magnitude => Text.ofNat magnitude
  | .negSucc less => '-' :: Text.ofNat (less + 1)

/-- A minus sign, if there is one. -/
def writeSign (negative : Bool) : Text :=
  if negative then "-" else ""

/-- A floating-point value with the fewest digits that read back. -/
def FloatValue.write : FloatValue → Text
  | .finite negative magnitude =>
      writeSign negative ++ magnitude.shortest.positional
  | .infinite negative => writeSign negative ++ "inf"
  | .notANumber => "NaN"

namespace Value

/-- The least integer that a document may hold. -/
def leastInteger : Int := -(Nat.pow 2 127)

/-- The greatest integer that a document may hold. -/
def greatestInteger : Int := Nat.pow 2 128 - 1

/-- Are integers this large named by their width in messages? -/
def isWide (value : Int) : Bool :=
  value < -(Nat.pow 2 63) || Nat.pow 2 64 ≤ value

/-- The name of the integer type that is wide enough for a wide integer. -/
def widthName (value : Int) : Text :=
  if value < Nat.pow 2 127 then "i128" else "u128"

/-- What a value is, as messages name it. -/
def description : Value → Text
  | string value => "string " ++ Text.quoted value
  | integer value =>
      "integer `" ++ writeInteger value ++ "`" ++
        if isWide value then " as " ++ widthName value else []
  | float value => "floating point `" ++ value.write ++ "`"
  | boolean value => if value then "boolean `true`" else "boolean `false`"
  | array _ => "sequence"
  | dateTime _ | table _ => "map"

/-- Is the value a number that is too large to be held? -/
def isOutOfRange : Value → Bool
  | integer value => value < leastInteger || greatestInteger < value
  | float (.finite _ magnitude) => magnitude.overflows
  | _ => false

/-- What is said of a number that is too large. -/
def rangeMessage : Value → Text
  | float _ => "floating-point number overflowed"
  | _ => "integer number overflowed"

mutual

/-- The first number, in document order, that is too large to be held. -/
def firstOutOfRange? : Value → Option Value
  | array items => firstOutOfRangeItem? items
  | table entries => firstOutOfRangeField? entries
  | value => if value.isOutOfRange then some value else none

def firstOutOfRangeItem? : List Value → Option Value
  | [] => none
  | item :: items =>
      item.firstOutOfRange?.or (firstOutOfRangeItem? items)

def firstOutOfRangeField? : List (Text × Value) → Option Value
  | [] => none
  | (_, value) :: entries =>
      value.firstOutOfRange?.or (firstOutOfRangeField? entries)

end

end Value

end Toml

end AccessAudit
