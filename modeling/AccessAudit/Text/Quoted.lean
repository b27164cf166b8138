import AccessAudit.Text.Printable

/-!
# Quoted text

A text between quotes, with escapes for all that a reader could not tell from
the listing.
-/

namespace AccessAudit

namespace Text

/-- How one character is written between quotes. -/
def escapeForListing (c : Char) : Text :=
  if c = '\x22' then "\\\""
  else if c = '\\' then "\\\\"
  else if c = '\n' then "\\n"
  else if c = '\r' then "\\r"
  else if c = '\t' then "\\t"
  else if c = '\x00' then "\\0"
  else if isPrintable c then [c]
  else "\\u\x7b" ++ Nat.toDigits 16 c.toNat ++ "\x7d"

def quoted (text : Text) : Text :=
  "\"" ++ text.flatMap escapeForListing ++ "\""

example : quoted "a\"b".toList = "\"a\\\"b\"".toList := by decide +kernel

end Text

end AccessAudit
