import AccessAudit.Json
import AccessAudit.Number.Shortest
import AccessAudit.Report

/-!
# The JSON report

Counts and rate of compliance in a summary, then one object a row.
-/

namespace AccessAudit

/-- The rate as a JSON number, or null where nothing is actionable. -/
def Tally.rateJson (tally : Tally) : Json :=
  match tally.complianceRate? with
  | some rate => .number rate.shortest.report
  | none => .null

def Report.summaryJson (report : Report) : Json :=
  let counts : List (Text × Json) := Status.all.map fun status =>
    (status.key, .ofNat (report.tally.count status))
  .object (counts ++
    [ ("total".toList, .ofNat report.tally.total),
      ("skipped".toList, .ofNat report.skipped),
      ("compliance_rate".toList, report.tally.rateJson) ])

def ReportRow.json (row : ReportRow) : Json :=
  .object
    [ ("line", .ofNat row.index),
      ("path", .string row.path),
      ("status", .string row.verdict.status.key),
      ("symbol", .string row.verdict.status.symbol),
      ("rule", .string row.rule),
      ("note", .string row.verdict.note),
      ("issue", .string row.verdict.issue),
      ("plan", .string row.verdict.plan) ]

/-- The report as a JSON value. -/
def Report.json (report : Report) : Json :=
  .object
    [ ("summary", report.summaryJson),
      ("files", .array (report.rows.map ReportRow.json)) ]

/-- The report as a JSON document. -/
def Report.structured (report : Report) : Text :=
  report.json.pretty

end AccessAudit
