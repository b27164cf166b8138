import AccessAudit.Text.Basic

/-!
# JSON documents

Values with their fields in order, and the layout used in reports: one item a
line, indented by two spaces a level.
-/

namespace AccessAudit

/-- A JSON value.  A number is kept as it is written. -/
inductive Json
  | null
  | boolean (value : Bool)
  | number (written : Text)
  | string (value : Text)
  | array (items : List Json)
  | object (fields : List (Text × Json))

namespace Json

def ofNat (number : Nat) : Json :=
  .number (Text.ofNat number)

/-- A hexadecimal digit in lower case. -/
def hexDigit (value : Nat) : Char :=
  Nat.digitChar value

/-- How one character is written inside a string: quotes, backslashes and
control characters are escaped, all others stand for themselves. -/
def escapeChar (c : Char) : Text :=
  if c = '\x22' then "\\\""
  else if c = '\\' then "\\\\"
  else if c = '\n' then "\\n"
  else if c = '\r' then "\\r"
  else if c = '\t' then "\\t"
  else if c = '\x08' then "\\b"
  else if c = '\x0c' then "\\f"
  else if c.toNat < 0x20 then
    "\\u00" ++ [hexDigit (c.toNat / 16), hexDigit (c.toNat % 16)]
  else [c]

def quote (text : Text) : Text :=
  "\"" ++ text.flatMap escapeChar ++ "\""

/-- The start of a new line at some depth. -/
def newLine (depth : Nat) : Text :=
  '\n' :: Text.repeated (2 * depth) ' '

mutual

/-- A value laid out over several lines; the inner lines of arrays and
objects are one level below `depth`. -/
def prettyAt (depth : Nat) : Json → Text
  | null => "null"
  | boolean value => if value then "true" else "false"
  | number written => written
  | string value => quote value
  | array [] => "[]"
  | array (item :: items) =>
      "[" ++ newLine (depth + 1) ++ prettyAt (depth + 1) item ++
        prettyItems depth items ++ newLine depth ++ "]"
  | object [] => "\x7b\x7d"
  | object ((name, value) :: fields) =>
      "\x7b" ++ newLine (depth + 1) ++ quote name ++ ": " ++
        prettyAt (depth + 1) value ++ prettyFields depth fields ++
        newLine depth ++ "\x7d"

/-- The items of an array after the first. -/
def prettyItems (depth : Nat) : List Json → Text
  | [] => []
  | item :: items =>
      "," ++ newLine (depth + 1) ++ prettyAt (depth + 1) item ++
        prettyItems depth items

/-- The fields of an object after the first. -/
def prettyFields (depth : Nat) : List (Text × Json) → Text
  | [] => []
  | (name, value) :: fields =>
      "," ++ newLine (depth + 1) ++ quote name ++ ": " ++
        prettyAt (depth + 1) value ++ prettyFields depth fields

end

/-- A value laid out over several lines, without a line feed at the end. -/
def pretty (value : Json) : Text :=
  prettyAt 0 value

mutual

/-- A value on one line, without spaces. -/
def compact : Json → Text
  | null => "null"
  | boolean value => if value then "true" else "false"
  | number written => written
  | string value => quote value
  | array [] => "[]"
  | array (item :: items) => "[" ++ compact item ++ compactItems items ++ "]"
  | object [] => "\x7b\x7d"
  | object ((name, value) :: fields) =>
      "\x7b" ++ quote name ++ ":" ++ compact value ++ compactFields fields ++
        "\x7d"

/-- The items of an array after the first. -/
def compactItems : List Json → Text
  | [] => []
  | item :: items => "," ++ compact item ++ compactItems items

/-- The fields of an object after the first. -/
def compactFields : List (Text × Json) → Text
  | [] => []
  | (name, value) :: fields =>
      "," ++ quote name ++ ":" ++ compact value ++ compactFields fields

end

end Json

end AccessAudit
