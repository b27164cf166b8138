import AccessAudit.Report.Console
import AccessAudit.Report.Csv
import AccessAudit.Report.Structured
import AccessAudit.Text.LowerCase

/-!
# Report formats

The formats in which a report can be shown, and their names in any case of
letters.
-/

namespace AccessAudit

inductive ReportFormat
  | text
  | json
  | csv
deriving DecidableEq, Repr

namespace ReportFormat

def ofName? (name : Text) : Option ReportFormat :=
  let lower := Text.lowerCase name
  if lower = "text".toList then some .text
  else if lower = "json".toList then some .json
  else if lower = "csv".toList then some .csv
  else none

def name : ReportFormat → Text
  | .text => "text"
  | .json => "json"
  | .csv => "csv"

/-- What is said of a name that no format has. -/
def unknownMessage (name : Text) : Text :=
  "Unknown output format: " ++ name

end ReportFormat

/-- The report in some format; verbosity and color count for text only. -/
def Report.render (report : Report) (format : ReportFormat) (verbosity : Nat)
    (colored : Bool) : Text :=
  match format with
  | .text => report.console verbosity colored
  | .json => report.structured
  | .csv => report.csv

end AccessAudit
