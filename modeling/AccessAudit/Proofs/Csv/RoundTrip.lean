import AccessAudit.Proofs.Assessment
import AccessAudit.Proofs.Csv.Reading
import AccessAudit.Proofs.Manifest.Accounting
import AccessAudit.Proofs.Manifest.RoundTrip

/-!
# Reading the CSV report back

The records of a report are its header and what is reported on each path.  No
path of a manifest and no verdict of a rule holds a line feed, so that every
path of a manifest has one line.
-/

namespace AccessAudit

attribute [ext] Verdict

theorem Status.symbol_injective {status other : Status}
    (same : status.symbol = other.symbol) : status = other := by
  revert same
  cases status <;> cases other <;> decide

namespace Csv

def columns : List Text :=
  ["File Path", "Status", "Notes", "RBAC_Issues", "Implementation_Plan"]

theorem readRecords_header (rest : Text) :
    readRecords (Text.line header ++ rest) =
      (readRecords rest).map (columns :: ·) := by
  have plain : ∀ column ∈ columns, column.all isPlain = true := by
    decide +kernel
  have joined : header = Text.joinWith "," (columns.map id) := by
    decide +kernel
  rw [joined]
  apply readRecords_line (by decide)
  intro column member
  exact readAs_self (List.all_eq_true.mp (plain column member))

theorem readRecords_record {fields : List Text} (nonempty : fields ≠ [])
    (rest : Text) :
    readRecords (record fields ++ rest) =
      (readRecords rest).map (fields :: ·) :=
  readRecords_line nonempty (fun field _ => readAs_escape field) rest

theorem readRecords_rows (rows : List ReportRow) :
    readRecords (rows.flatMap fun row => record (fields row)) =
      some (rows.map fields) := by
  induction rows with
  | nil => rfl
  | cons row rest ih =>
      rw [List.flatMap_cons, readRecords_record (by simp [fields]), ih]
      rfl

theorem readRecords_csv (report : Report) :
    readRecords report.csv = some (columns :: report.rows.map fields) := by
  rw [Report.csv, readRecords_header, readRecords_rows]
  rfl

theorem csv_eq_flatMap (report : Report) :
    report.csv = Text.line header ++
      (report.rows.map fields).flatMap record := by
  rw [Report.csv, List.flatMap_map]

theorem fields_eq_iff {row other : ReportRow} :
    fields row = fields other ↔
      row.path = other.path ∧ row.verdict = other.verdict := by
  constructor
  · intro same
    simp only [fields, List.cons.injEq, and_true] at same
    obtain ⟨path, symbol, note, issue, plan⟩ := same
    have status := Status.symbol_injective symbol
    exact ⟨path, Verdict.ext status note issue plan⟩
  · rintro ⟨path, verdict⟩
    rw [fields, fields, path, verdict]

theorem map_fields_eq_iff {rows others : List ReportRow} :
    rows.map fields = others.map fields ↔
      rows.map (fun row => (row.path, row.verdict)) =
        others.map fun row => (row.path, row.verdict) := by
  induction rows generalizing others with
  | nil => cases others <;> simp
  | cons row rest ih =>
      cases others with
      | nil => simp
      | cons other more =>
          simp only [List.map_cons, List.cons.injEq, fields_eq_iff, ih,
            Prod.mk.injEq]

/-- Reports agree exactly if they say the same on the same paths. -/
theorem csv_eq_iff {report other : Report} :
    report.csv = other.csv ↔
      report.rows.map (fun row => (row.path, row.verdict)) =
        other.rows.map fun row => (row.path, row.verdict) := by
  rw [← map_fields_eq_iff]
  constructor
  · intro same
    have read := readRecords_csv report
    rw [same, readRecords_csv other] at read
    exact (List.cons.inj (Option.some.inj read)).2.symm
  · intro same
    rw [csv_eq_flatMap, csv_eq_flatMap, same]

end Csv

/-! ## One line a row -/

/-- No text of the verdict holds a line feed. -/
def Verdict.OneLine (verdict : Verdict) : Prop :=
  '\n' ∉ verdict.note ∧ '\n' ∉ verdict.issue ∧ '\n' ∉ verdict.plan

instance (verdict : Verdict) : Decidable verdict.OneLine :=
  inferInstanceAs (Decidable ('\n' ∉ verdict.note ∧
    '\n' ∉ verdict.issue ∧ '\n' ∉ verdict.plan))

theorem backendRules_oneLine :
    ∀ rule ∈ backendRules.fallback :: backendRules.rules,
      rule.outcome.OneLine := by
  simp only [backendRules, List.forall_mem_cons, List.not_mem_nil,
    false_implies, implies_true, and_true, Verdict.settled, Verdict.OneLine]
  -- Lists of characters are much faster to decide on than literals.
  repeat rw [String.toList_ofList]
  and_intros <;> decide +kernel

theorem frontendRules_oneLine :
    ∀ rule ∈ frontendRules.fallback :: frontendRules.rules,
      rule.outcome.OneLine := by
  simp only [frontendRules, List.forall_mem_cons, List.not_mem_nil,
    false_implies, implies_true, and_true, Verdict.settled, Verdict.OneLine]
  repeat rw [String.toList_ofList]
  and_intros <;> decide +kernel

theorem Classification.oneLine_decide (classification : Classification)
    (features : Features) :
    (classification.decide features).verdict.OneLine :=
  decide_of_rules (·.verdict.OneLine) backendRules_oneLine
    frontendRules_oneLine
    (by decide +kernel : Verdict.unknownFileType.OneLine)
    classification features

theorem oneLine_assessContent (path : Text) (content : Content) :
    (assessContent path content).verdict.OneLine := by
  cases content with
  | text text => exact (classify path).oneLine_decide _
  | missing => exact (by decide +kernel : Verdict.fileNotFound.OneLine)
  | unreadable => exact (by decide +kernel : Verdict.unreadable.OneLine)

namespace Csv

theorem not_mem_escape {c : Char} {value : Text} (notQuote : c ≠ '\x22')
    (absent : c ∉ value) : c ∉ escape value := by
  intro member
  rw [escape, List.mem_append, List.mem_append] at member
  rcases member with (first | inside) | final
  · exact notQuote (List.mem_singleton.mp first)
  · rw [doubleQuotes, List.mem_flatMap] at inside
    obtain ⟨original, isThere, written⟩ := inside
    split at written
    · simp [notQuote] at written
    · rw [List.mem_singleton] at written
      exact absent (written ▸ isThere)
  · exact notQuote (List.mem_singleton.mp final)

theorem count_lineFeed_record {fields : List Text}
    (oneLine : ∀ field ∈ fields, '\n' ∉ field) :
    (record fields).count '\n' = 1 := by
  have joined : '\n' ∉ Text.joinWith "," (fields.map escape) := by
    apply Text.not_mem_joinWith (by decide)
    intro part member
    obtain ⟨field, isField, rfl⟩ := List.mem_map.mp member
    exact not_mem_escape (by decide) (oneLine field isField)
  rw [record, Text.line, List.count_append,
    List.count_eq_zero_of_not_mem joined]
  rfl

theorem oneLine_of_mem_fields {row : ReportRow} (path : '\n' ∉ row.path)
    (verdict : row.verdict.OneLine) : ∀ field ∈ fields row, '\n' ∉ field := by
  obtain ⟨note, issue, plan⟩ := verdict
  have symbol : '\n' ∉ row.verdict.status.symbol := by
    cases row.verdict.status <;> decide
  simp only [fields, List.forall_mem_cons, List.not_mem_nil, false_implies,
    implies_true, and_true]
  exact ⟨path, symbol, note, issue, plan⟩

/-- If nothing reported holds a line feed, the file has a line for the header
and one for every row. -/
theorem count_lineFeed_csv {report : Report}
    (oneLine : ∀ row ∈ report.rows,
      '\n' ∉ row.path ∧ row.verdict.OneLine) :
    report.csv.count '\n' = report.rows.length + 1 := by
  have rows : ∀ rows : List ReportRow,
      (∀ row ∈ rows, '\n' ∉ row.path ∧ row.verdict.OneLine) →
      (rows.flatMap fun row => record (fields row)).count '\n' =
        rows.length := by
    intro rows
    induction rows with
    | nil => intro _; rfl
    | cons row rest ih =>
        intro all
        obtain ⟨path, verdict⟩ := all row List.mem_cons_self
        have later := ih fun other member =>
          all other (List.mem_cons_of_mem row member)
        rw [List.flatMap_cons, List.count_append, later,
          count_lineFeed_record (oneLine_of_mem_fields path verdict),
          List.length_cons, Nat.add_comm]
  have first : (Text.line header).count '\n' = 1 := by decide +kernel
  rw [Report.csv, List.count_append, first, rows report.rows oneLine,
    Nat.add_comm]

end Csv

theorem Report.oneLine_of_mem_rows {source : ContentSource} {text : Text}
    {mode : ManifestMode} {row : ReportRow}
    (member : row ∈
      (ofEntries source (Manifest.parse text mode).entries).rows) :
    '\n' ∉ row.path ∧ row.verdict.OneLine := by
  rw [rows_ofEntries (Manifest.entries_pairwise_index text mode)] at member
  obtain ⟨entry, isEntry, rfl⟩ := List.mem_map.mp member
  rw [ofEntry_eq]
  exact ⟨(Manifest.canonical_of_mem_entries isEntry).noLineFeed,
    oneLine_assessContent _ _⟩

/-- The CSV report reads back as its header with one record for every row, in
order.  So equal reports have equal paths and verdicts, and the report on a
manifest has one line for every entry, after the header. -/
theorem csv_reads_back :
    (∀ report : Report, Csv.readRecords report.csv =
      some (Csv.columns :: report.rows.map fun row =>
        [row.path, row.verdict.status.symbol, row.verdict.note,
          row.verdict.issue, row.verdict.plan])) ∧
    (∀ report other : Report, report.csv = other.csv ↔
      report.rows.map (fun row => (row.path, row.verdict)) =
        other.rows.map fun row => (row.path, row.verdict)) ∧
    ∀ (source : ContentSource) (text : Text) (mode : ManifestMode),
      let report :=
        Report.ofEntries source (Manifest.parse text mode).entries
      report.csv.count '\n' = report.rows.length + 1 := by
  refine ⟨Csv.readRecords_csv, ?_, ?_⟩
  · exact fun _ _ => Csv.csv_eq_iff
  · intro source text mode report
    exact Csv.count_lineFeed_csv fun row => Report.oneLine_of_mem_rows

end AccessAudit
