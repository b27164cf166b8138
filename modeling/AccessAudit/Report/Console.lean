import AccessAudit.Number.Shortest
import AccessAudit.Report
import AccessAudit.Style

/-!
# The console report and the written summary

The console report lists rows according to verbosity and closes with a
summary block.  The written summary is a text of its own that may refer to
the detailed report.
-/

namespace AccessAudit

def Status.style : Status → Style
  | .compliant => .green
  | .notNeeded => .dim
  | .needsMigration => .red
  | .partialReview => .yellow
  | .notFound => .cyan

/-- Is a row with this status listed at a verbosity?  None is at 0, those
with work to do are at 1, and all are above. -/
def Status.isListed (status : Status) (verbosity : Nat) : Bool :=
  match verbosity with
  | 0 => false
  | 1 => status == .needsMigration || status == .partialReview
  | _ => true

/-- The line of the rate of compliance, if there is a rate. -/
def Tally.rateLine (tally : Tally) : Text :=
  match tally.complianceRate? with
  | some rate => Text.line ("RBAC Compliance Rate: " ++ rate.fixedOne ++ "%")
  | none => []

/-- The line of the skipped manifest lines, if there are any. -/
def Report.skippedLine (report : Report) : Text :=
  if report.skipped = 0 then []
  else Text.line ("Skipped Manifest Lines: " ++ Text.ofNat report.skipped)

namespace Console

def rowBlock (colored : Bool) (row : ReportRow) : Text :=
  let verdict := row.verdict
  let status := verdict.status
  Text.line (status.symbol ++ " " ++
      status.style.paint colored status.display ++ ": " ++ row.path) ++
    Text.line ("   " ++ verdict.note) ++
    Text.remark "   Issue: " verdict.issue ++
    Text.remark "   Plan: " verdict.plan

/-- The rows listed at a verbosity. -/
def listed (verbosity : Nat) (rows : List ReportRow) : List ReportRow :=
  rows.filter fun row => row.verdict.status.isListed verbosity

def summaryBlock (colored : Bool) (report : Report) : Text :=
  Text.line "RBAC Compliance Summary" ++
    Text.line (Text.repeated 50 '=') ++
    Status.all.flatMap (fun status =>
      Text.line (status.symbol ++ " " ++ status.label ++ ": " ++
        status.style.paint colored
          (Text.ofNat (report.tally.count status)))) ++
    Text.line ("Total Files: " ++ Text.ofNat report.tally.total) ++
    report.skippedLine ++ report.tally.rateLine

end Console

def Report.console (report : Report) (verbosity : Nat) (colored : Bool) :
    Text :=
  let rows := Console.listed verbosity report.rows
  rows.flatMap (Console.rowBlock colored) ++
    (if rows.isEmpty then [] else Text.line []) ++
    Console.summaryBlock colored report

/-- The written summary, which may name the file of the detailed report. -/
def Report.summary (report : Report) (detailedReport : Option Text) : Text :=
  Text.line "RBAC Compliance Analysis Summary" ++
    Text.line (Text.repeated 50 '=') ++
    Text.line [] ++
    Text.line ("Total Files Analyzed: " ++ Text.ofNat report.tally.total) ++
    report.skippedLine ++
    Text.line [] ++
    Status.all.flatMap (fun status =>
      Text.line (status.symbol ++ " " ++ status.label ++ ": " ++
        Text.ofNat (report.tally.count status))) ++
    (if report.tally.complianceRate?.isSome then Text.line [] else []) ++
    report.tally.rateLine ++
    (match detailedReport with
      | some path => Text.line [] ++ Text.line ("Detailed Report: " ++ path)
      | none => [])

end AccessAudit
