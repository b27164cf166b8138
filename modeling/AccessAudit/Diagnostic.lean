import AccessAudit.Style

/-!
# Diagnostic blocks

Errors, warnings and notices for the user: a headline with a message, then a
detail and a hint where there are any.
-/

namespace AccessAudit

/-- What a diagnostic block is about. -/
inductive Headline
  | error (kind : Text)
  | warning
  | info
deriving DecidableEq, Repr

namespace Headline

/-- The words before the message. -/
def head : Headline → Text
  | .error kind => "✖ " ++ kind ++ ":"
  | .warning => "⚠ Warning:"
  | .info => "ℹ"

def style : Headline → Style
  | .error _ => .red
  | .warning => .yellow
  | .info => .cyan

end Headline

/-- A message to the user. -/
structure Diagnostic where
  headline : Headline
  message : Text
  detail : Option Text
  hint : Option Text
deriving DecidableEq, Repr

namespace Diagnostic

/-- A notice without detail. -/
def info (message : Text) : Diagnostic :=
  ⟨.info, message, none, none⟩

/-- A warning without detail. -/
def warning (message : Text) : Diagnostic :=
  ⟨.warning, message, none, none⟩

def render (diagnostic : Diagnostic) (colored : Bool) : Text :=
  let headline := diagnostic.headline
  let head :=
    if colored then
      Style.bold.start ++ headline.style.paint true headline.head
    else headline.head
  Text.line (head ++ " " ++ diagnostic.message) ++
    (match diagnostic.detail with
      | some detail =>
          Text.line ("  " ++ Style.dim.paint colored ("× " ++ detail))
      | none => []) ++
    (match diagnostic.hint with
      | some hint =>
          Text.line ("  " ++ Style.cyan.paint colored "help:" ++ " " ++ hint)
      | none => [])

end Diagnostic

end AccessAudit
