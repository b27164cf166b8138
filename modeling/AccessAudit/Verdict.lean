import AccessAudit.Text.Basic

/-!
# Verdicts

The compliance status of a file and the verdict that carries it: a note, a
detected issue and a plan.  The order of the statuses is the order of every
report and says nothing about severity.
-/

namespace AccessAudit

/-- How a file stands with respect to permission-based access control. -/
inductive Status
  | compliant
  | notNeeded
  | needsMigration
  | partialReview
  | notFound
deriving DecidableEq, Repr

namespace Status

def all : List Status :=
  [.compliant, .notNeeded, .needsMigration, .partialReview, .notFound]

theorem mem_all (status : Status) : status ∈ all := by
  cases status <;> decide

/-- The key of a status in structured output. -/
def key : Status → Text
  | .compliant => "compliant"
  | .notNeeded => "not_needed"
  | .needsMigration => "needs_migration"
  | .partialReview => "partial_review"
  | .notFound => "not_found"

/-- The status with the given key. -/
def ofKey? (key : Text) : Option Status :=
  all.find? fun status => status.key == key

/-- The sign of a status in reports. -/
def symbol : Status → Text
  | .compliant => "✅"
  | .notNeeded => "➖"
  | .needsMigration => "❌"
  | .partialReview => "🔄"
  | .notFound => "❓"

/-- The heading of a status in summaries. -/
def label : Status → Text
  | .compliant => "Fully Compliant"
  | .notNeeded => "No RBAC Needed"
  | .needsMigration => "Needs Migration"
  | .partialReview => "Partial/Review Needed"
  | .notFound => "Files Not Found"

/-- The name of a status in listings. -/
def display : Status → Text
  | .compliant => "COMPLIANT"
  | .notNeeded => "NOT NEEDED"
  | .needsMigration => "NEEDS MIGRATION"
  | .partialReview => "REVIEW"
  | .notFound => "NOT FOUND"

/-- Does a file with this status count when the rate of compliance is
computed? -/
def isActionable : Status → Bool
  | .compliant => true
  | .needsMigration => true
  | .partialReview => true
  | .notNeeded => false
  | .notFound => false

end Status

/-- The outcome of looking at one file.  Issue and plan are empty where
nothing has to be done. -/
structure Verdict where
  status : Status
  note : Text
  issue : Text
  plan : Text
deriving DecidableEq, Repr

namespace Verdict

/-- A verdict that asks for nothing. -/
def settled (status : Status) (note : Text) : Verdict :=
  ⟨status, note, [], []⟩

/-- Nothing exists at the path. -/
def fileNotFound : Verdict :=
  settled .notFound "File not found"

/-- Something exists at the path, but its content cannot be read. -/
def unreadable : Verdict :=
  settled .notFound "Cannot read file"

/-- The path belongs to neither domain. -/
def unknownFileType : Verdict :=
  settled .notNeeded "Unknown file type"

end Verdict

end AccessAudit
