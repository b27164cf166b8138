import AccessAudit.Text.Basic

/-!
# Terminal styles

The escape sequences that set off parts of the output on a terminal.
-/

namespace AccessAudit

/-- When output is coloured.  Output that goes to no terminal is coloured
only if this is asked for. -/
inductive ColorChoice
  | auto
  | always
  | never
deriving DecidableEq, Repr

inductive Style
  | red
  | green
  | yellow
  | cyan
  | bold
  | dim
deriving DecidableEq, Repr

namespace Style

/-- The sequence that begins a style. -/
def start : Style → Text
  | .red => "\x1b[31m"
  | .green => "\x1b[32m"
  | .yellow => "\x1b[33m"
  | .cyan => "\x1b[36m"
  | .bold => "\x1b[1m"
  | .dim => "\x1b[2m"

/-- The sequence that ends all styles. -/
def reset : Text :=
  "\x1b[0m"

/-- A text in a style, if colours are in use. -/
def paint (style : Style) (colored : Bool) (text : Text) : Text :=
  if colored then style.start ++ text ++ reset else text

end Style

end AccessAudit
