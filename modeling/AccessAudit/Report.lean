import AccessAudit.Assessment
import AccessAudit.Manifest
import AccessAudit.Tally

/-!
# Audit reports

The verdicts for all entries of a manifest, in the order of their line
numbers, with the tally of the verdicts and the number of skipped lines.
-/

namespace AccessAudit

/-- One manifest path with its verdict; `index` is the line number. -/
structure ReportRow where
  index : Nat
  path : Text
  rule : Text
  verdict : Verdict
deriving DecidableEq, Repr

/-- The verdicts on a manifest. -/
structure Report where
  rows : List ReportRow
  tally : Tally
  skipped : Nat
deriving DecidableEq, Repr

/-- The row of one manifest entry. -/
def ReportRow.ofEntry (source : ContentSource) (entry : ManifestEntry) :
    ReportRow :=
  let assessment := assess source entry.path
  ⟨entry.index, assessment.path, assessment.rule, assessment.verdict⟩

namespace Report

/-- Assess every entry and report in the order of line numbers; entries of
one line number keep their order. -/
def ofEntries (source : ContentSource) (entries : List ManifestEntry) :
    Report :=
  let rows := (entries.map (ReportRow.ofEntry source)).mergeSort
    fun a b => a.index ≤ b.index
  ⟨rows, Tally.collect (rows.map (·.verdict)), 0⟩

/-- The report on a manifest; its malformed lines count as skipped. -/
def ofManifest (source : ContentSource) (manifest : Manifest) : Report :=
  { ofEntries source manifest.entries with
    skipped := manifest.malformed.length }

end Report

end AccessAudit
