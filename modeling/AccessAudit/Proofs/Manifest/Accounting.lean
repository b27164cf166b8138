import AccessAudit.Proofs.Manifest.Line
import AccessAudit.Proofs.Tally
import AccessAudit.Proofs.Text.Lines
import AccessAudit.Report

/-!
# Every line of a manifest is accounted for

Each line of a manifest becomes a row of the report, is listed as malformed,
or is blank, and never two of these.  The lists of line numbers ascend, so the
report keeps the order of the manifest and its counts add up to the number of
lines.
-/

namespace AccessAudit

/-- Whether a line says nothing can be told by reading it, under any
number. -/
instance (mode : ManifestMode) (raw : Text) :
    Decidable (BlankLine mode raw) :=
  decidable_of_iff (ManifestLine.parse 0 raw mode = .blank)
    ManifestLine.parse_eq_blank_iff

namespace ManifestLine

/-- The entry on a line, if the line is one. -/
def asEntry : ManifestLine → Option ManifestEntry
  | .entry found => some found
  | .blank | .malformed => none

theorem index_of_parse_eq_entry {index : Nat} {raw : Text}
    {mode : ManifestMode} {entry : ManifestEntry}
    (read : parse index raw mode = .entry entry) : entry.index = index := by
  obtain ⟨body, _, _, rfl⟩ := parse_eq_entry_iff.mp read
  rfl

end ManifestLine

namespace Manifest

/-- Lines with their numbers, as they are read. -/
def readings (mode : ManifestMode) (index : Nat) (raws : List Text) :
    List (Nat × ManifestLine) :=
  (raws.zipIdx index).map fun line =>
    (line.2, ManifestLine.parse line.2 line.1 mode)

@[simp]
theorem readings_nil (mode : ManifestMode) (index : Nat) :
    readings mode index [] = [] := rfl

@[simp]
theorem readings_cons (mode : ManifestMode) (index : Nat) (raw : Text)
    (rest : List Text) :
    readings mode index (raw :: rest) =
      (index, ManifestLine.parse index raw mode) ::
        readings mode (index + 1) rest := rfl

theorem map_fst_readings (mode : ManifestMode) (index : Nat)
    (raws : List Text) :
    (readings mode index raws).map (·.1) =
      List.range' index raws.length := by
  simp [readings, Function.comp_def, ← List.zipIdx_map_snd]

theorem mem_readings_iff {mode : ManifestMode} {raws : List Text}
    {index number : Nat} {reading : ManifestLine} :
    (number, reading) ∈ readings mode index raws ↔
      ∃ raw, index ≤ number ∧ raws[number - index]? = some raw ∧
        ManifestLine.parse number raw mode = reading := by
  simp only [readings, List.mem_map, List.mem_zipIdx_iff_le_and_getElem?_sub,
    Prod.mk.injEq, Prod.exists]
  constructor
  · rintro ⟨raw, _, ⟨above, line⟩, rfl, read⟩
    exact ⟨raw, above, line, read⟩
  · rintro ⟨raw, above, line, read⟩
    exact ⟨raw, number, ⟨above, line⟩, rfl, read⟩

/-- A manifest holds the readings of its lines, sorted by what they are. -/
theorem ofLines_eq (mode : ManifestMode) (index : Nat) (raws : List Text) :
    ofLines mode index raws =
      { entries := (readings mode index raws).filterMap (·.2.asEntry)
        malformed :=
          ((readings mode index raws).filter (·.2 = .malformed)).map (·.1)
        lineCount := index + raws.length - 1 } := by
  induction raws generalizing index with
  | nil => simp [ofLines]
  | cons raw rest ih =>
      have count : index + 1 + rest.length - 1 =
          index + (raw :: rest).length - 1 := by
        simp only [List.length_cons]
        omega
      simp only [ofLines, ih, count, readings_cons]
      cases read : ManifestLine.parse index raw mode <;>
        simp [ManifestLine.asEntry]

theorem entries_parse (text : Text) (mode : ManifestMode) :
    (parse text mode).entries =
      (readings mode 1 (Text.lines text)).filterMap (·.2.asEntry) := by
  rw [parse, ofLines_eq]

theorem malformed_parse (text : Text) (mode : ManifestMode) :
    (parse text mode).malformed =
      ((readings mode 1 (Text.lines text)).filter
        (·.2 = .malformed)).map (·.1) := by
  rw [parse, ofLines_eq]

theorem lineCount_parse (text : Text) (mode : ManifestMode) :
    (parse text mode).lineCount = (Text.lines text).length := by
  rw [parse, ofLines_eq]
  simp

/-- The entries carry the numbers of their lines. -/
theorem map_index_entries (mode : ManifestMode) (index : Nat)
    (raws : List Text) :
    ((readings mode index raws).filterMap (·.2.asEntry)).map (·.index) =
      ((readings mode index raws).filter (·.2.asEntry.isSome)).map (·.1) := by
  induction raws generalizing index with
  | nil => rfl
  | cons raw rest ih =>
      rw [readings_cons]
      cases read : ManifestLine.parse index raw mode with
      | entry entry =>
          have number := ManifestLine.index_of_parse_eq_entry read
          simpa [ManifestLine.asEntry, number] using ih (index + 1)
      | blank => simpa [ManifestLine.asEntry] using ih (index + 1)
      | malformed => simpa [ManifestLine.asEntry] using ih (index + 1)

/-- Line numbers that are picked by the readings of their lines ascend. -/
theorem pairwise_filter_readings (wanted : Nat × ManifestLine → Bool)
    (mode : ManifestMode) (index : Nat) (raws : List Text) :
    (((readings mode index raws).filter wanted).map (·.1)).Pairwise
      (· < ·) := by
  have ascending : ((readings mode index raws).map (·.1)).Pairwise
      (· < ·) := by
    rw [map_fst_readings]
    exact List.pairwise_lt_range'
  exact ascending.sublist (List.filter_sublist.map _)

theorem entries_pairwise_index (text : Text) (mode : ManifestMode) :
    ((parse text mode).entries.map (·.index)).Pairwise (· < ·) := by
  rw [entries_parse, map_index_entries]
  exact pairwise_filter_readings _ mode 1 _

/-- A line of a text, counted from 1, that says nothing. -/
def BlankAt (text : Text) (mode : ManifestMode) (number : Nat) : Prop :=
  ∃ raw, 1 ≤ number ∧ (Text.lines text)[number - 1]? = some raw ∧
    BlankLine mode raw

/-- How many lines of a text say nothing. -/
def blankCount (text : Text) (mode : ManifestMode) : Nat :=
  (Text.lines text).countP (BlankLine mode ·)

theorem blankAt_iff {text : Text} {mode : ManifestMode} {number : Nat} :
    BlankAt text mode number ↔
      (number, .blank) ∈ readings mode 1 (Text.lines text) := by
  simp only [BlankAt, mem_readings_iff, ManifestLine.parse_eq_blank_iff]

theorem mem_malformed_iff {text : Text} {mode : ManifestMode}
    {number : Nat} :
    number ∈ (parse text mode).malformed ↔
      (number, .malformed) ∈ readings mode 1 (Text.lines text) := by
  simp [malformed_parse]

theorem mem_index_entries_iff {text : Text} {mode : ManifestMode}
    {number : Nat} :
    number ∈ (parse text mode).entries.map (·.index) ↔
      ∃ entry, (number, .entry entry) ∈
        readings mode 1 (Text.lines text) := by
  rw [entries_parse, map_index_entries]
  simp only [List.mem_map, List.mem_filter, Prod.exists, exists_and_right,
    exists_eq_right]
  constructor
  · rintro ⟨reading, member, isEntry⟩
    cases reading with
    | entry entry => exact ⟨entry, member⟩
    | blank => simp [ManifestLine.asEntry] at isEntry
    | malformed => simp [ManifestLine.asEntry] at isEntry
  · rintro ⟨entry, member⟩
    exact ⟨.entry entry, member, rfl⟩

/-- The numbers of the lines are those from 1 to the number of lines, and each
line has one reading. -/
theorem readings_functional {mode : ManifestMode} {index number : Nat}
    {raws : List Text} {first second : ManifestLine}
    (firstRead : (number, first) ∈ readings mode index raws)
    (secondRead : (number, second) ∈ readings mode index raws) :
    first = second := by
  obtain ⟨raw, _, line, rfl⟩ := mem_readings_iff.mp firstRead
  obtain ⟨other, _, sameLine, rfl⟩ := mem_readings_iff.mp secondRead
  rw [line, Option.some.injEq] at sameLine
  rw [sameLine]

theorem exists_reading_iff {mode : ManifestMode} {text : Text}
    {number : Nat} :
    (∃ reading, (number, reading) ∈ readings mode 1 (Text.lines text)) ↔
      1 ≤ number ∧ number ≤ (parse text mode).lineCount := by
  have numbers := map_fst_readings mode 1 (Text.lines text)
  have member : (∃ reading,
      (number, reading) ∈ readings mode 1 (Text.lines text)) ↔
        number ∈ (readings mode 1 (Text.lines text)).map (·.1) := by
    simp
  rw [member, numbers, List.mem_range'_1, lineCount_parse]
  omega

/-- Entries, malformed lines and blank lines are all lines. -/
theorem length_entries_add (mode : ManifestMode) (index : Nat)
    (raws : List Text) :
    (ofLines mode index raws).entries.length +
        (ofLines mode index raws).malformed.length +
        raws.countP (BlankLine mode ·) = raws.length := by
  induction raws generalizing index with
  | nil => rfl
  | cons raw rest ih =>
      have others := ih (index + 1)
      have blank := @ManifestLine.parse_eq_blank_iff index raw mode
      simp only [ofLines, List.countP_cons, List.length_cons,
        decide_eq_true_eq, ← blank]
      cases read : ManifestLine.parse index raw mode <;> simp <;> omega

end Manifest

/-- Of three statements exactly one holds. -/
def ExactlyOne (first second third : Prop) : Prop :=
  first ∧ ¬second ∧ ¬third ∨ ¬first ∧ second ∧ ¬third ∨
    ¬first ∧ ¬second ∧ third

/-- A report accounts for a manifest text.  It has a row for every entry, in
the order of the manifest; each line of the text is the line of a row, a
malformed line or a blank line; and the tally counts the rows by status. -/
structure Report.AccountsFor (report : Report) (source : ContentSource)
    (text : Text) (mode : ManifestMode) (manifest : Manifest) : Prop where
  rows : report.rows = manifest.entries.map fun entry =>
    { index := entry.index
      path := entry.path
      rule := (assess source entry.path).rule
      verdict := (assess source entry.path).verdict }
  lineCount : manifest.lineCount = (Text.lines text).length
  lineFeeds : manifest.lineCount = text.count '\n' +
    if text = [] ∨ text.getLast? = some '\n' then 0 else 1
  rowsAscending : (report.rows.map (·.index)).Pairwise (· < ·)
  malformedAscending : manifest.malformed.Pairwise (· < ·)
  lines : ∀ number, 1 ≤ number ∧ number ≤ manifest.lineCount →
    ExactlyOne (number ∈ report.rows.map (·.index))
      (number ∈ manifest.malformed) (Manifest.BlankAt text mode number)
  numbers : ∀ number, number ∈ report.rows.map (·.index) ∨
      number ∈ manifest.malformed ∨ Manifest.BlankAt text mode number →
    1 ≤ number ∧ number ≤ manifest.lineCount
  counts : ∀ status, report.tally.count status =
    report.rows.countP (·.verdict.status = status)
  sum : report.tally.total + report.skipped +
    Manifest.blankCount text mode = manifest.lineCount

namespace Report

/-- Entries in ascending order keep their order in the report. -/
theorem rows_ofEntries {source : ContentSource}
    {entries : List ManifestEntry}
    (ascending : (entries.map (·.index)).Pairwise (· < ·)) :
    (ofEntries source entries).rows =
      entries.map (ReportRow.ofEntry source) := by
  apply List.mergeSort_of_pairwise
  rw [List.pairwise_map] at ascending ⊢
  exact ascending.imp fun before => decide_eq_true (Nat.le_of_lt before)

theorem ofEntry_eq (source : ContentSource) (entry : ManifestEntry) :
    ReportRow.ofEntry source entry =
      { index := entry.index
        path := entry.path
        rule := (assess source entry.path).rule
        verdict := (assess source entry.path).verdict } := by
  have path : (assess source entry.path).path = entry.path := by
    unfold assess assessContent
    cases source entry.path <;> rfl
  simp [ReportRow.ofEntry, path]

/-- The rows are those of the entries. -/
theorem mem_rows_ofEntries {source : ContentSource}
    {entries : List ManifestEntry} {row : ReportRow} :
    row ∈ (ofEntries source entries).rows ↔
      ∃ entry ∈ entries, ReportRow.ofEntry source entry = row := by
  simp [ofEntries]

theorem count_tally_ofEntries (source : ContentSource)
    (entries : List ManifestEntry) (status : Status) :
    (ofEntries source entries).tally.count status =
      (ofEntries source entries).rows.countP
        (·.verdict.status = status) := by
  simp [ofEntries, Tally.count_collect, List.countP_map, Function.comp_def]

theorem total_tally_ofEntries (source : ContentSource)
    (entries : List ManifestEntry) :
    (ofEntries source entries).tally.total = entries.length := by
  simp [ofEntries, Tally.total_collect]

end Report

namespace Manifest

theorem exactlyOne_of_reading {text : Text} {mode : ManifestMode}
    {number : Nat} {reading : ManifestLine}
    (read : (number, reading) ∈ readings mode 1 (Text.lines text)) :
    ExactlyOne (number ∈ (parse text mode).entries.map (·.index))
      (number ∈ (parse text mode).malformed) (BlankAt text mode number) := by
  have only : ∀ other,
      (number, other) ∈ readings mode 1 (Text.lines text) →
        other = reading := fun other found => readings_functional found read
  rw [mem_index_entries_iff, mem_malformed_iff, blankAt_iff]
  cases reading with
  | entry entry =>
      refine Or.inl ⟨⟨entry, read⟩, ?_, ?_⟩
      · intro malformed
        cases only _ malformed
      · intro blank
        cases only _ blank
  | malformed =>
      refine Or.inr (Or.inl ⟨?_, read, ?_⟩)
      · rintro ⟨entry, found⟩
        cases only _ found
      · intro blank
        cases only _ blank
  | blank =>
      refine Or.inr (Or.inr ⟨?_, ?_, read⟩)
      · rintro ⟨entry, found⟩
        cases only _ found
      · intro malformed
        cases only _ malformed

theorem exists_reading {text : Text} {mode : ManifestMode} {number : Nat}
    (listed : number ∈ (parse text mode).entries.map (·.index) ∨
      number ∈ (parse text mode).malformed ∨ BlankAt text mode number) :
    ∃ reading, (number, reading) ∈ readings mode 1 (Text.lines text) := by
  rw [mem_index_entries_iff, mem_malformed_iff, blankAt_iff] at listed
  rcases listed with ⟨entry, read⟩ | read | read
  · exact ⟨_, read⟩
  · exact ⟨_, read⟩
  · exact ⟨_, read⟩

end Manifest

/-- The report on any manifest text accounts for every line of it. -/
theorem report_accountsFor (source : ContentSource) (text : Text)
    (mode : ManifestMode) :
    (Report.ofManifest source (Manifest.parse text mode)).AccountsFor source
      text mode (Manifest.parse text mode) := by
  have ascending := Manifest.entries_pairwise_index text mode
  have rows : (Report.ofManifest source (Manifest.parse text mode)).rows =
      (Manifest.parse text mode).entries.map (ReportRow.ofEntry source) :=
    Report.rows_ofEntries ascending
  have indices : (Report.ofManifest source
      (Manifest.parse text mode)).rows.map (·.index) =
        (Manifest.parse text mode).entries.map (·.index) := by
    simp [rows, ReportRow.ofEntry]
  have lineCount := Manifest.lineCount_parse text mode
  constructor
  · rw [rows]
    exact List.map_congr_left fun entry _ => Report.ofEntry_eq source entry
  · exact lineCount
  · rw [lineCount, Text.length_lines]
  · rw [indices]
    exact ascending
  · rw [Manifest.malformed_parse]
    exact Manifest.pairwise_filter_readings _ mode 1 _
  · intro number inRange
    obtain ⟨reading, read⟩ := Manifest.exists_reading_iff.mpr inRange
    rw [indices]
    exact Manifest.exactlyOne_of_reading read
  · intro number listed
    rw [indices] at listed
    exact Manifest.exists_reading_iff.mp (Manifest.exists_reading listed)
  · exact Report.count_tally_ofEntries source _
  · rw [lineCount]
    have accounted := Manifest.length_entries_add mode 1 (Text.lines text)
    have total := Report.total_tally_ofEntries source
      (Manifest.parse text mode).entries
    simp only [Report.ofManifest, total]
    exact accounted

end AccessAudit
