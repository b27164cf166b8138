import AccessAudit.Diagnostic
import AccessAudit.Proofs.Style
import AccessAudit.Report.Console

/-!
# Layers and colours of the console

A console report is a layer of rows above the summary; verbosity decides which
rows there are and nothing else.  Colours are decoration: without its style
sequences a coloured report or diagnostic is the plain one.
-/

namespace AccessAudit

/-- Rows with work to do are listed from verbosity 1 on, all rows from 2 on. -/
def Status.ListedAt (verbosity : Nat) (status : Status) : Prop :=
  2 ≤ verbosity ∨
    verbosity = 1 ∧ (status = .needsMigration ∨ status = .partialReview)

instance (verbosity : Nat) (status : Status) :
    Decidable (status.ListedAt verbosity) :=
  inferInstanceAs (Decidable (_ ∨ _ ∧ (_ ∨ _)))

theorem Status.isListed_eq (status : Status) (verbosity : Nat) :
    status.isListed verbosity = decide (status.ListedAt verbosity) := by
  match verbosity with
  | 0 => simp [isListed, ListedAt]
  | 1 => cases status <;> rfl
  | verbosity + 2 => simp [isListed, ListedAt]

/-- No text of the report that is shown holds an escape. -/
structure Report.EscapeFree (report : Report) : Prop where
  path : ∀ row ∈ report.rows, row.path.EscapeFree
  note : ∀ row ∈ report.rows, row.verdict.note.EscapeFree
  issue : ∀ row ∈ report.rows, row.verdict.issue.EscapeFree
  plan : ∀ row ∈ report.rows, row.verdict.plan.EscapeFree

theorem Report.escapeFree_skippedLine (report : Report) :
    report.skippedLine.EscapeFree := by
  rw [Report.skippedLine]
  split
  · exact List.not_mem_nil
  · exact (Text.EscapeFree.append (by decide) (Text.escapeFree_ofNat _)).line

theorem Binary64.escapeFree_fixedOne (number : Binary64) :
    Text.EscapeFree number.fixedOne :=
  ((Text.escapeFree_ofNat _).append (by decide)).append
    (Text.escapeFree_ofNat _)

theorem Tally.escapeFree_rateLine (tally : Tally) :
    tally.rateLine.EscapeFree := by
  rw [Tally.rateLine]
  split
  · next rate _ =>
      exact ((Text.EscapeFree.append (by decide)
        rate.escapeFree_fixedOne).append (by decide)).line
  · exact List.not_mem_nil

namespace Console

theorem rowBlock_ne_nil (colored : Bool) (row : ReportRow) :
    rowBlock colored row ≠ [] := by
  simp [rowBlock, Text.line]

/-- Rows are told from their blocks: no block is empty. -/
theorem flatMap_rowBlock_eq_nil_iff (colored : Bool) {rows : List ReportRow} :
    rows.flatMap (rowBlock colored) = [] ↔ rows = [] := by
  rw [List.flatMap_eq_nil_iff, List.eq_nil_iff_forall_not_mem]
  exact forall₂_congr fun row _ =>
    iff_of_false (rowBlock_ne_nil colored row) id

theorem listed_eq (verbosity : Nat) (rows : List ReportRow) :
    listed verbosity rows =
      rows.filter fun row => row.verdict.status.ListedAt verbosity :=
  List.filter_congr fun row _ => row.verdict.status.isListed_eq verbosity

theorem rowBlock_erasesTo {row : ReportRow} (path : row.path.EscapeFree)
    (note : row.verdict.note.EscapeFree)
    (issue : row.verdict.issue.EscapeFree)
    (plan : row.verdict.plan.EscapeFree) :
    ErasesTo (rowBlock true row) (rowBlock false row) := by
  have label : row.verdict.status.display.EscapeFree := by
    cases row.verdict.status <;> decide
  have symbol : ErasesTo (row.verdict.status.symbol ++ " ")
      (row.verdict.status.symbol ++ " ") := by
    apply ErasesTo.of_escapeFree
    cases row.verdict.status <;> decide
  have head := ((symbol.append (.paint row.verdict.status.style label)).append
    (.of_escapeFree (by decide : Text.EscapeFree ": "))).append
      (.of_escapeFree path)
  have noted : Text.EscapeFree ("   " ++ row.verdict.note) :=
    Text.EscapeFree.append (by decide) note
  exact ((head.line.append (ErasesTo.of_escapeFree noted).line).append
    (.of_escapeFree (.remark (by decide) issue))).append
      (.of_escapeFree (.remark (by decide) plan))

theorem summaryBlock_erasesTo (report : Report) :
    ErasesTo (summaryBlock true report) (summaryBlock false report) := by
  have counts : ErasesTo
      (Status.all.flatMap fun status => Text.line (status.symbol ++ " " ++
        status.label ++ ": " ++
          status.style.paint true (Text.ofNat (report.tally.count status))))
      (Status.all.flatMap fun status => Text.line (status.symbol ++ " " ++
        status.label ++ ": " ++
          status.style.paint false (Text.ofNat (report.tally.count status)))) :=
    .flatMap fun status _ => by
      have head : Text.EscapeFree
          (status.symbol ++ " " ++ status.label ++ ": ") := by
        cases status <;> decide
      exact ((ErasesTo.of_escapeFree head).append
        (.paint status.style (Text.escapeFree_ofNat _))).line
  have title : Text.EscapeFree (Text.line "RBAC Compliance Summary" ++
      Text.line (Text.repeated 50 '=')) := by
    decide
  have total : Text.EscapeFree (Text.line
      ("Total Files: " ++ Text.ofNat report.tally.total)) :=
    (Text.EscapeFree.append (by decide) (Text.escapeFree_ofNat _)).line
  exact ((((ErasesTo.of_escapeFree title).append counts).append
    (.of_escapeFree total)).append
      (.of_escapeFree report.escapeFree_skippedLine)).append
        (.of_escapeFree report.tally.escapeFree_rateLine)

end Console

namespace Report

theorem console_eq (report : Report) (verbosity : Nat) (colored : Bool) :
    report.console verbosity colored =
      (Console.listed verbosity report.rows).flatMap
          (Console.rowBlock colored) ++
        (if Console.listed verbosity report.rows = [] then [] else ['\n']) ++
          Console.summaryBlock colored report := by
  simp only [console, List.isEmpty_iff]
  rfl

theorem console_zero (report : Report) (colored : Bool) :
    report.console 0 colored = Console.summaryBlock colored report := by
  have none : Console.listed 0 report.rows = [] :=
    List.filter_eq_nil_iff.mpr fun _ _ => Bool.false_ne_true
  rw [console_eq, none]
  rfl

theorem console_erasesTo {report : Report} (free : report.EscapeFree)
    (verbosity : Nat) :
    ErasesTo (report.console verbosity true)
      (report.console verbosity false) := by
  have rows : ErasesTo
      ((Console.listed verbosity report.rows).flatMap (Console.rowBlock true))
      ((Console.listed verbosity report.rows).flatMap
        (Console.rowBlock false)) :=
    .flatMap fun row member => by
      have isRow : row ∈ report.rows := (List.mem_filter.mp member).1
      exact Console.rowBlock_erasesTo (free.path row isRow)
        (free.note row isRow) (free.issue row isRow) (free.plan row isRow)
  have separator : Text.EscapeFree
      (if Console.listed verbosity report.rows = [] then [] else ['\n']) := by
    split <;> decide
  rw [console_eq, console_eq]
  exact (rows.append (.of_escapeFree separator)).append
    (Console.summaryBlock_erasesTo report)

end Report

namespace Diagnostic

/-- No text of the diagnostic holds an escape. -/
structure EscapeFree (diagnostic : Diagnostic) : Prop where
  kind : ∀ kind, diagnostic.headline = .error kind → kind.EscapeFree
  message : diagnostic.message.EscapeFree
  detail : ∀ detail, diagnostic.detail = some detail → detail.EscapeFree
  hint : ∀ hint, diagnostic.hint = some hint → hint.EscapeFree

theorem EscapeFree.head {diagnostic : Diagnostic}
    (free : diagnostic.EscapeFree) :
    diagnostic.headline.head.EscapeFree := by
  cases headline : diagnostic.headline with
  | error kind =>
      exact (Text.EscapeFree.append (by decide)
        (free.kind kind headline)).append (by decide)
  | warning => decide
  | info => decide

theorem render_erasesTo {diagnostic : Diagnostic}
    (free : diagnostic.EscapeFree) :
    ErasesTo (diagnostic.render true) (diagnostic.render false) := by
  have head : ErasesTo
      (Style.bold.start ++
        diagnostic.headline.style.paint true diagnostic.headline.head)
      diagnostic.headline.head :=
    (ErasesTo.start .bold).append (.paint diagnostic.headline.style free.head)
  have message := (head.append
    (.of_escapeFree (by decide : Text.EscapeFree " "))).append
      (.of_escapeFree free.message)
  simp only [render]
  refine (message.line.append ?_).append ?_
  · cases given : diagnostic.detail with
    | none => exact .nil
    | some detail =>
        have indent : Text.EscapeFree "  " := by decide
        have dimmed : Text.EscapeFree ("× " ++ detail) :=
          .append (by decide) (free.detail detail given)
        exact ((ErasesTo.of_escapeFree indent).append
          (.paint .dim dimmed)).line
  · cases given : diagnostic.hint with
    | none => exact .nil
    | some hint =>
        have indent : Text.EscapeFree "  " := by decide
        have label : Text.EscapeFree "help:" := by decide
        have space : Text.EscapeFree " " := by decide
        exact ((((ErasesTo.of_escapeFree indent).append
          (.paint .cyan label)).append (.of_escapeFree space)).append
            (.of_escapeFree (free.hint hint given))).line

end Diagnostic

/-- At every verbosity a console report is a layer above the report at
verbosity 0.  The layer is made of the blocks of the rows that are listed, and
an empty line ends it unless it is empty.  If no text holds an escape, a
coloured report without its style sequences is the plain report, and so it is
with diagnostics. -/
theorem console_layers_and_colors (report : Report) :
    (∀ verbosity colored,
      let layer := (report.rows.filter fun row =>
          row.verdict.status.ListedAt verbosity).flatMap
        (Console.rowBlock colored)
      report.console verbosity colored =
        layer ++ (if layer = [] then [] else ['\n']) ++
          report.console 0 colored) ∧
    (report.EscapeFree → ∀ verbosity,
      eraseStyles (report.console verbosity true) =
        report.console verbosity false) ∧
    ∀ diagnostic : Diagnostic, diagnostic.EscapeFree →
      eraseStyles (diagnostic.render true) = diagnostic.render false := by
  refine ⟨?_, ?_, ?_⟩
  · intro verbosity colored layer
    have isLayer : (Console.listed verbosity report.rows).flatMap
        (Console.rowBlock colored) = layer := by
      rw [Console.listed_eq]
    have empty : Console.listed verbosity report.rows = [] ↔ layer = [] := by
      rw [← isLayer, Console.flatMap_rowBlock_eq_nil_iff]
    simp only [Report.console_eq report verbosity, Report.console_zero,
      isLayer, empty]
  · intro free verbosity
    exact (Report.console_erasesTo free verbosity).eraseStyles_eq
  · intro diagnostic free
    exact (Diagnostic.render_erasesTo free).eraseStyles_eq

/-- Texts that look like the insides of style sequences. -/
theorem console_layers_and_colors_of_brackets :
    let row : ReportRow := ⟨1, "backend/[31m.js", "routes-legacy-role",
      ⟨.needsMigration, "m0;", [], "[0m"⟩⟩
    let report : Report := ⟨[row], Tally.collect [row.verdict], 2⟩
    let diagnostic : Diagnostic :=
      ⟨.error "Config", "[1m", some "m".toList, some "1;31m".toList⟩
    report.EscapeFree ∧ diagnostic.EscapeFree ∧
      eraseStyles (report.console 1 true) = report.console 1 false ∧
      eraseStyles (diagnostic.render true) = diagnostic.render false := by
  intro row report diagnostic
  have free : report.EscapeFree := by
    constructor <;> decide
  have diagnosticFree : diagnostic.EscapeFree := by
    refine ⟨?_, by decide, ?_, ?_⟩
    · rintro _ ⟨⟩
      decide
    · rintro _ ⟨⟩
      decide
    · rintro _ ⟨⟩
      decide
  obtain ⟨-, reports, diagnostics⟩ := console_layers_and_colors report
  exact ⟨free, diagnosticFree, reports free 1,
    diagnostics diagnostic diagnosticFree⟩

end AccessAudit
