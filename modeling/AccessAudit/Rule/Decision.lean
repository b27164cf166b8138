import AccessAudit.Rule.Backend
import AccessAudit.Rule.Frontend

/-!
# Decisions for classified files

The table of the file's domain decides.  A file of neither domain is settled
by a rule of its own and has an empty trace.
-/

namespace AccessAudit

/-- The deciding rule and verdict of a classified file. -/
def Classification.decide (classification : Classification)
    (features : Features) : Decision :=
  match classification with
  | .backend category => backendRules.evaluate category features
  | .frontend category => frontendRules.evaluate category features
  | .unknown => ⟨"unknown-file-type", .unknownFileType⟩

/-- How every rule of the file's domain stood. -/
def Classification.trace (classification : Classification)
    (features : Features) : List TraceStep :=
  match classification with
  | .backend category => backendRules.trace category features
  | .frontend category => frontendRules.trace category features
  | .unknown => []

end AccessAudit
