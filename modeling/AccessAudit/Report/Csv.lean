import AccessAudit.Report

/-!
# The CSV report

One record a row after a header.  Every field of a row stands in quotes, and
a quote inside a field is written twice.
-/

namespace AccessAudit

namespace Csv

def header : Text :=
  "File Path,Status,Notes,RBAC_Issues,Implementation_Plan"

/-- The characters of a field, every quote twice. -/
def doubleQuotes (value : Text) : Text :=
  value.flatMap fun c => if c = '\x22' then ['\x22', '\x22'] else [c]

/-- A quoted field. -/
def escape (value : Text) : Text :=
  "\"" ++ doubleQuotes value ++ "\""

def fields (row : ReportRow) : List Text :=
  [row.path, row.verdict.status.symbol, row.verdict.note, row.verdict.issue,
    row.verdict.plan]

/-- A quoted record with its line feed. -/
def record (fields : List Text) : Text :=
  Text.line (Text.joinWith "," (fields.map escape))

end Csv

def Report.csv (report : Report) : Text :=
  Text.line Csv.header ++
    report.rows.flatMap fun row => Csv.record (Csv.fields row)

end AccessAudit
