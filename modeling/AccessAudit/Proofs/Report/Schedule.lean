import AccessAudit.Proofs.Report.StableOrder
import AccessAudit.Proofs.Tally

/-!
# Reports do not depend on how the work is divided

A schedule cuts a list into contiguous pieces, works off every piece on its
own, and merges the results two by two.  Work that turns concatenation into
merging comes out the same under every schedule; assessing entries and
counting verdicts are such work.
-/

namespace AccessAudit

/-- A list is worked off as one piece, or it is cut after `count` elements and
both parts are worked off by schedules of their own.  Every way to cut a list
into contiguous pieces, empty ones among them, and to merge the results two by
two is a schedule. -/
inductive Schedule
  | piece
  | cut (count : Nat) (front back : Schedule)

namespace Schedule

variable {α β : Type}

/-- Work off a list piece by piece and merge the results. -/
def run (work : List α → β) (merge : β → β → β) :
    Schedule → List α → β
  | .piece, items => work items
  | .cut count front back, items =>
      merge (front.run work merge (items.take count))
        (back.run work merge (items.drop count))

theorem run_eq {work : List α → β} {merge : β → β → β}
    (merges : ∀ front back,
      work (front ++ back) = merge (work front) (work back))
    (schedule : Schedule) (items : List α) :
    schedule.run work merge items = work items := by
  induction schedule generalizing items with
  | piece => rfl
  | cut count front back frontIH backIH =>
      rw [run, frontIH, backIH, ← merges, List.take_append_drop]

end Schedule

namespace Tally

/-- Counts of two lists of verdicts add up to the counts of both. -/
theorem collect_append (front back : List Verdict) :
    collect (front ++ back) = (collect front).merge (collect back) := by
  apply ext_count
  intro status
  simp only [count_merge, count_collect, List.countP_append]

end Tally

/-- Assess entries and count verdicts, each under a schedule. -/
def Report.ofEntriesBy (assessing counting : Schedule)
    (source : ContentSource) (entries : List ManifestEntry) : Report :=
  let assessed := assessing.run
    (fun piece => piece.map (ReportRow.ofEntry source)) (· ++ ·) entries
  let rows := assessed.mergeSort fun a b => a.index ≤ b.index
  let tally := counting.run
    (fun piece => Tally.collect (piece.map (·.verdict))) Tally.merge rows
  ⟨rows, tally, 0⟩

theorem Report.ofEntriesBy_eq (assessing counting : Schedule)
    (source : ContentSource) (entries : List ManifestEntry) :
    ofEntriesBy assessing counting source entries =
      ofEntries source entries := by
  have assessed : assessing.run
      (fun piece => piece.map (ReportRow.ofEntry source)) (· ++ ·) entries =
        entries.map (ReportRow.ofEntry source) := by
    apply Schedule.run_eq
    intro front back
    exact List.map_append
  have counted : ∀ rows : List ReportRow,
      counting.run (fun piece => Tally.collect (piece.map (·.verdict)))
        Tally.merge rows = Tally.collect (rows.map (·.verdict)) := by
    apply Schedule.run_eq
    intro front back
    rw [List.map_append, Tally.collect_append]
  simp only [ofEntriesBy, assessed, counted, ofEntries]

/-- If no line number occurs twice, the order of the entries does not
matter. -/
theorem Report.ofEntries_eq_of_perm (source : ContentSource)
    {entries permuted : List ManifestEntry} (perm : entries.Perm permuted)
    (distinct : (entries.map (·.index)).Nodup) :
    ofEntries source permuted = ofEntries source entries := by
  have stablySorted := rows_stablySorted source entries
  have rowsPerm := perm.map (ReportRow.ofEntry source)
  have rowsDistinct : ((entries.map (ReportRow.ofEntry source)).map
      (·.index)).Nodup := by
    simpa [ReportRow.ofEntry, Function.comp_def] using distinct
  have permutedSorted : StablySorted (ofEntries source entries).rows
      (permuted.map (ReportRow.ofEntry source)) := by
    refine ⟨stablySorted.perm.trans rowsPerm, stablySorted.ascending, ?_⟩
    intro index
    rw [stablySorted.stable]
    exact rowsOfLine_eq_of_perm rowsPerm rowsDistinct index
  have rows : (ofEntries source permuted).rows =
      (ofEntries source entries).rows :=
    (rows_stablySorted source permuted).unique permutedSorted
  simp only [ofEntries] at rows ⊢
  rw [rows]

/-- Under every schedule the rows are the assessments of the entries in stable
order, of which there is one, and the tally counts their verdicts.  If no line
number occurs twice, the order of the entries does not matter either. -/
theorem report_independent_of_schedule (source : ContentSource)
    (entries : List ManifestEntry) :
    (∀ assessing counting,
      let report := Report.ofEntriesBy assessing counting source entries
      report = Report.ofEntries source entries ∧
      (∀ rows, rows = report.rows ↔
        StablySorted rows (entries.map (ReportRow.ofEntry source))) ∧
      report.tally = Tally.collect (report.rows.map (·.verdict))) ∧
    ∀ permuted, entries.Perm permuted →
      (entries.map (·.index)).Nodup →
        Report.ofEntries source permuted =
          Report.ofEntries source entries := by
  have stablySorted := Report.rows_stablySorted source entries
  constructor
  · intro assessing counting
    simp only [Report.ofEntriesBy_eq]
    refine ⟨trivial, ?_, rfl⟩
    intro rows
    constructor
    · rintro rfl
      exact stablySorted
    · intro alsoSorted
      exact alsoSorted.unique stablySorted
  · intro permuted perm distinct
    exact Report.ofEntries_eq_of_perm source perm distinct

theorem report_of_exchanged_entries :
    let source := memorySource [("backend/app.js", "")] []
    let app : ManifestEntry := ⟨1, "backend/app.js"⟩
    let gone : ManifestEntry := ⟨2, "react/gone.tsx"⟩
    [gone, app].Perm [app, gone] ∧
      ([gone, app].map (·.index)).Nodup ∧
      Report.ofEntries source [app, gone] =
        Report.ofEntries source [gone, app] := by
  intro source app gone
  have perm : [gone, app].Perm [app, gone] := List.Perm.swap app gone []
  have distinct : ([gone, app].map (·.index)).Nodup := by decide
  exact ⟨perm, distinct, (report_independent_of_schedule source
    [gone, app]).2 [app, gone] perm distinct⟩

end AccessAudit
