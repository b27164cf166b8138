import AccessAudit.Proofs.Json.Layout
import AccessAudit.Proofs.Number.Magnitude
import AccessAudit.Proofs.Tally
import AccessAudit.Report.Structured
import Mathlib.Data.List.Forall2

/-!
# Reading the JSON report back

The JSON report is one document.  Its fields say what the report holds, and no
other report agrees with them.
-/

namespace AccessAudit

namespace Json

/-! ## Looking into values -/

/-- The value of the only field of that name. -/
def field? (name : Text) : Json → Option Json
  | object fields =>
      match fields.filter fun field => field.1 = name with
      | [(_, value)] => some value
      | _ => none
  | _ => none

def nat? : Json → Option Nat
  | number written => Text.readDigits? 10 0 written
  | _ => none

def text? : Json → Option Text
  | string value => some value
  | _ => none

def items? : Json → Option (List Json)
  | array items => some items
  | _ => none

def natAt? (name : Text) (value : Json) : Option Nat :=
  (value.field? name).bind nat?

def textAt? (name : Text) (value : Json) : Option Text :=
  (value.field? name).bind text?

theorem nat?_ofNat (number : Nat) : (ofNat number).nat? = some number :=
  Text.readDigits?_ofNat number

/-! ## What a document says -/

/-- The object says what the row holds. -/
structure DescribesRow (object : Json) (row : ReportRow) : Prop where
  line : object.natAt? "line" = some row.index
  path : object.textAt? "path" = some row.path
  status : object.textAt? "status" = some row.verdict.status.key
  symbol : object.textAt? "symbol" = some row.verdict.status.symbol
  rule : object.textAt? "rule" = some row.rule
  note : object.textAt? "note" = some row.verdict.note
  issue : object.textAt? "issue" = some row.verdict.issue
  plan : object.textAt? "plan" = some row.verdict.plan

/-- The object says what the tally holds, how many lines were skipped, and a
rate of compliance where there is one. -/
structure Summarizes (object : Json) (report : Report) : Prop where
  count : ∀ status : Status,
    object.natAt? status.key = some (report.tally.count status)
  total : object.natAt? "total" =
    some (Status.all.map report.tally.count).sum
  skipped : object.natAt? "skipped" = some report.skipped
  noRate : object.field? "compliance_rate" = some .null ↔
    report.tally.actionable = 0
  rate : report.tally.actionable ≠ 0 →
    ∃ written, object.field? "compliance_rate" = some (.number written)

/-- The document says what the report holds, row by row. -/
structure Describes (document : Json) (report : Report) : Prop where
  summary : ∃ object, document.field? "summary" = some object ∧
    object.Summarizes report
  files : ∃ items, (document.field? "files").bind items? = some items ∧
    List.Forall₂ DescribesRow items report.rows

end Json

/-! ## The document of a report -/

namespace Tally

theorem rateJson_of_actionable_eq_zero {tally : Tally}
    (ungraded : tally.actionable = 0) : tally.rateJson = .null := by
  rw [rateJson, complianceRate?, if_pos ungraded]

theorem exists_rateJson_eq_number {tally : Tally}
    (graded : tally.actionable ≠ 0) :
    ∃ written, tally.rateJson = .number written := by
  rw [rateJson, complianceRate?, if_neg graded]
  exact ⟨_, rfl⟩

theorem validNumbers_rateJson (tally : Tally) :
    tally.rateJson.ValidNumbers := by
  rw [rateJson]
  cases found : tally.complianceRate? with
  | none => trivial
  | some rate =>
      exact Binary64.isNumber_report_shortest (normal_complianceRate? found)

end Tally

theorem Status.key_injective {status other : Status}
    (same : status.key = other.key) : status = other := by
  revert same
  cases status <;> cases other <;> decide

namespace ReportRow

theorem json_describesRow (row : ReportRow) : row.json.DescribesRow row where
  line := Json.nat?_ofNat row.index
  path := rfl
  status := rfl
  symbol := rfl
  rule := rfl
  note := rfl
  issue := rfl
  plan := rfl

theorem validNumbers_json (row : ReportRow) : row.json.ValidNumbers :=
  ⟨Json.isNumber_ofNat row.index, trivial, trivial, trivial, trivial, trivial,
    trivial, trivial, trivial⟩

end ReportRow

theorem Json.DescribesRow.unique {object : Json} {row other : ReportRow}
    (describes : object.DescribesRow row)
    (describesOther : object.DescribesRow other) : row = other := by
  obtain ⟨index, path, rule, verdict⟩ := row
  obtain ⟨status, note, issue, plan⟩ := verdict
  obtain ⟨index', path', rule', verdict'⟩ := other
  obtain ⟨status', note', issue', plan'⟩ := verdict'
  rw [ReportRow.mk.injEq, Verdict.mk.injEq]
  refine ⟨Option.mem_unique describes.line describesOther.line,
    Option.mem_unique describes.path describesOther.path,
    Option.mem_unique describes.rule describesOther.rule, ?_,
    Option.mem_unique describes.note describesOther.note,
    Option.mem_unique describes.issue describesOther.issue,
    Option.mem_unique describes.plan describesOther.plan⟩
  apply Status.key_injective
  exact Option.mem_unique describes.status describesOther.status

namespace Report

theorem summaryJson_summarizes (report : Report) :
    report.summaryJson.Summarizes report where
  count := by
    intro status
    cases status <;> exact Json.nat?_ofNat _
  total := by
    rw [report.tally.sum_map_count]
    exact Json.nat?_ofNat _
  skipped := Json.nat?_ofNat _
  noRate := by
    change some report.tally.rateJson = some .null ↔ _
    constructor
    · intro isNull
      by_contra graded
      obtain ⟨written, rate⟩ := Tally.exists_rateJson_eq_number graded
      rw [rate] at isNull
      cases isNull
    · intro ungraded
      rw [Tally.rateJson_of_actionable_eq_zero ungraded]
  rate := by
    intro graded
    obtain ⟨written, rate⟩ := Tally.exists_rateJson_eq_number graded
    exact ⟨written, congrArg some rate⟩

theorem json_describes (report : Report) : report.json.Describes report where
  summary := ⟨_, rfl, report.summaryJson_summarizes⟩
  files := by
    refine ⟨_, rfl, ?_⟩
    rw [List.forall₂_map_left_iff]
    exact List.forall₂_same.mpr fun row _ => row.json_describesRow

theorem validNumbers_summaryJson (report : Report) :
    report.summaryJson.ValidNumbers := by
  have count : ∀ status : Status,
      Json.isNumber (Text.ofNat (report.tally.count status)) = true :=
    fun status => Json.isNumber_ofNat _
  exact ⟨count .compliant, count .notNeeded, count .needsMigration,
    count .partialReview, count .notFound, Json.isNumber_ofNat _,
    Json.isNumber_ofNat _, report.tally.validNumbers_rateJson, trivial⟩

theorem validItems_map_json (rows : List ReportRow) :
    Json.ValidItems (rows.map ReportRow.json) := by
  induction rows with
  | nil => trivial
  | cons row rest ih => exact ⟨row.validNumbers_json, ih⟩

theorem validNumbers_json (report : Report) : report.json.ValidNumbers :=
  ⟨report.validNumbers_summaryJson, validItems_map_json report.rows, trivial⟩

theorem read?_structured (report : Report) :
    Json.read? report.structured = some report.json :=
  Json.read?_pretty report.validNumbers_json

end Report

namespace Json

/-- A summary determines the counts and the number of skipped lines. -/
theorem Summarizes.unique {object : Json} {report other : Report}
    (summarizes : object.Summarizes report)
    (summarizesOther : object.Summarizes other) :
    report.tally = other.tally ∧ report.skipped = other.skipped := by
  constructor
  · apply Tally.ext_count
    intro status
    have same := (summarizes.count status).symm.trans
      (summarizesOther.count status)
    exact Option.some.inj same
  · have same := summarizes.skipped.symm.trans summarizesOther.skipped
    exact Option.some.inj same

theorem Describes.unique {document : Json} {report other : Report}
    (describes : document.Describes report)
    (describesOther : document.Describes other) : report = other := by
  obtain ⟨summary, isSummary, summarizes⟩ := describes.summary
  obtain ⟨summary', isSummary', summarizes'⟩ := describesOther.summary
  obtain ⟨items, areItems, rows⟩ := describes.files
  obtain ⟨items', areItems', rows'⟩ := describesOther.files
  obtain rfl := Option.some.inj (isSummary.symm.trans isSummary')
  obtain rfl := Option.some.inj (areItems.symm.trans areItems')
  obtain ⟨tally, skipped⟩ := summarizes.unique summarizes'
  have sameRows : report.rows = other.rows := by
    apply Relator.RightUnique.forall₂ _ rows rows'
    intro object row otherRow describes describesOther
    exact describes.unique describesOther
  rw [Report.mk.injEq]
  exact ⟨sameRows, tally, skipped⟩

end Json

/-- The JSON report is one document, which describes the report and no other
one.  The rate in it is that of a finite double. -/
theorem structured_reads_back (report : Report) :
    (∃ document, Json.read? report.structured = some document ∧
      document.Describes report ∧
      ∀ other : Report, document.Describes other → other = report) ∧
    ∀ rate, report.tally.complianceRate? = some rate →
      rate.overflows = false := by
  constructor
  · refine ⟨report.json, report.read?_structured, report.json_describes, ?_⟩
    intro other describesOther
    exact describesOther.unique report.json_describes
  · intro rate found
    exact Tally.complianceRate?_overflows found

end AccessAudit
