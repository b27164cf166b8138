import AccessAudit.Proofs.Manifest.Accounting
import AccessAudit.Proofs.Manifest.RoundTrip
import AccessAudit.Proofs.Rule.Trace

/-!
# Explanations agree with audits

An explanation normalizes the path, assesses it and traces the rules in a
second pass.  The assessment is the one that an audit makes of the normalized
path, and the trace ends in its verdict.  The paths of a report are normalized
already, so each of its rows is what an explanation of its path says.
-/

namespace AccessAudit

/-- No step decides, for a reason that lies outside the rules. -/
inductive Untraced (content : Content) (classification : Classification) :
    Prop
  | missing (absent : content = .missing)
  | unreadable (refused : content = .unreadable)
  | unknown (noDomain : classification = .unknown)

/-- An explanation gives the assessment of a path, and a trace in which the
rule of the assessment, and no other, decides.  The trace is empty exactly
where no rule was asked. -/
structure Explanation.Explains (explanation : Explanation)
    (assessment : Assessment) (path : Text) (content : Content) : Prop where
  assessed : explanation.assessment = assessment
  path_eq : explanation.assessment.path = path
  classified : explanation.assessment.classification = classify path
  content_eq : explanation.content = content.state
  untraced : explanation.ruleChain = [] ↔
    Untraced content explanation.assessment.classification
  decided : explanation.ruleChain ≠ [] →
    decisiveSteps explanation.ruleChain =
      [{ rule := explanation.assessment.rule
         standing := .decisive
         outcome := explanation.assessment.verdict.status }]

@[simp]
theorem path_assessContent (path : Text) (content : Content) :
    (assessContent path content).path = path := by
  cases content <;> rfl

@[simp]
theorem classification_assessContent (path : Text) (content : Content) :
    (assessContent path content).classification = classify path := by
  cases content <;> rfl

/-- Explaining is assessing the normalized path. -/
@[simp]
theorem assessment_explain (source : ContentSource) (raw : Text) :
    (explain source raw).assessment = assess source (normalizePath raw) := rfl

/-- The rules are traced on the features on which they decide. -/
theorem ruleChain_explain_of_text {source : ContentSource}
    {raw text : Text} (content : source (normalizePath raw) = .text text) :
    ∃ features,
      (explain source raw).ruleChain =
        (classify (normalizePath raw)).trace features ∧
      (assess source (normalizePath raw)).rule =
        ((classify (normalizePath raw)).decide features).rule ∧
      (assess source (normalizePath raw)).verdict =
        ((classify (normalizePath raw)).decide features).verdict := by
  refine ⟨(assess source (normalizePath raw)).features.getD .absent, ?_⟩
  simp only [explain, assess, content]
  exact ⟨rfl, rfl, rfl⟩

theorem explain_explains (source : ContentSource) (raw : Text) :
    (explain source raw).Explains (assess source (normalizePath raw))
      (normalizePath raw) (source (normalizePath raw)) := by
  have classified : (assess source (normalizePath raw)).classification =
      classify (normalizePath raw) := classification_assessContent _ _
  refine ⟨rfl, path_assessContent _ _, classified, rfl, ?_, ?_⟩
  · rw [assessment_explain, classified]
    cases content : source (normalizePath raw) with
    | missing =>
        have empty : (explain source raw).ruleChain = [] := by
          simp [explain, content]
        exact iff_of_true empty (.missing rfl)
    | unreadable =>
        have empty : (explain source raw).ruleChain = [] := by
          simp [explain, content]
        exact iff_of_true empty (.unreadable rfl)
    | text text =>
        obtain ⟨features, chain, _⟩ := ruleChain_explain_of_text content
        rw [chain, Classification.trace_eq_nil_iff]
        constructor
        · exact .unknown
        · intro untraced
          cases untraced with
          | missing absent => cases absent
          | unreadable refused => cases refused
          | unknown noDomain => exact noDomain
  · intro traced
    cases content : source (normalizePath raw) with
    | missing => simp [explain, content] at traced
    | unreadable => simp [explain, content] at traced
    | text text =>
        obtain ⟨features, chain, rule, verdict⟩ :=
          ruleChain_explain_of_text content
        rw [chain, Ne, Classification.trace_eq_nil_iff] at traced
        rw [assessment_explain, chain, rule, verdict,
          Classification.decisiveSteps_trace traced]
        rfl

/-- Each row of the report on a manifest is an assessment of a canonical
path. -/
theorem exists_entry_of_mem_rows {source : ContentSource} {text : Text}
    {mode : ManifestMode} {row : ReportRow}
    (member : row ∈
      (Report.ofManifest source (Manifest.parse text mode)).rows) :
    Canonical row.path ∧ row.rule = (assess source row.path).rule ∧
      row.verdict = (assess source row.path).verdict := by
  have rows : (Report.ofManifest source (Manifest.parse text mode)).rows =
      (Manifest.parse text mode).entries.map (ReportRow.ofEntry source) :=
    Report.rows_ofEntries (Manifest.entries_pairwise_index text mode)
  rw [rows] at member
  obtain ⟨entry, isEntry, rfl⟩ := List.mem_map.mp member
  rw [Report.ofEntry_eq]
  exact ⟨Manifest.canonical_of_mem_entries isEntry, rfl, rfl⟩

/-- An explanation of any path gives the assessment of its normal form and
traces it to the rule that decides; and on every row of a report it says what
the report says. -/
theorem explanation_agrees_with_audit :
    (∀ source raw,
      (explain source raw).Explains (assess source (normalizePath raw))
        (normalizePath raw) (source (normalizePath raw))) ∧
    ∀ text mode source,
      ∀ row ∈ (Report.ofManifest source (Manifest.parse text mode)).rows,
        (explain source row.path).assessment.path = row.path ∧
        (explain source row.path).assessment.rule = row.rule ∧
        (explain source row.path).assessment.verdict = row.verdict := by
  constructor
  · exact explain_explains
  · intro text mode source row member
    obtain ⟨canonical, rule, verdict⟩ := exists_entry_of_mem_rows member
    rw [assessment_explain, normalizePath_eq_self canonical]
    exact ⟨path_assessContent _ _, rule.symm, verdict.symm⟩

end AccessAudit
