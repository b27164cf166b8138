import AccessAudit.Proofs.Assessment
import AccessAudit.Proofs.Manifest.Accounting

/-!
# The shape of verdicts

The texts of a verdict suit its status: work that is asked for has a plan, and
a settled file has nothing to be done.  Rule and status also tell whether there
was content at all.  The rules see to that one by one, and every row of a
report takes its verdict from them.
-/

namespace AccessAudit

/-- The texts of the verdict suit its status. -/
def Verdict.WellShaped (verdict : Verdict) : Prop :=
  match verdict.status with
  | .compliant | .notNeeded | .notFound =>
      verdict.issue = [] ∧ verdict.plan = []
  | .needsMigration => verdict.issue ≠ [] ∧ verdict.plan ≠ []
  | .partialReview => verdict.plan ≠ []

instance : DecidablePred Verdict.WellShaped
  | ⟨.compliant, _, _, _⟩ | ⟨.notNeeded, _, _, _⟩ | ⟨.notFound, _, _, _⟩
  | ⟨.needsMigration, _, _, _⟩ => inferInstanceAs (Decidable (_ ∧ _))
  | ⟨.partialReview, _, _, _⟩ => inferInstanceAs (Decidable (_ ≠ _))

/-- The decision is one about a content: its rule is none of those that stand
for a missing content, and its verdict has a shape. -/
structure Decision.OnContent (decision : Decision) : Prop where
  notMissing : decision.rule ≠ "file-not-found"
  notUnreadable : decision.rule ≠ "unreadable-file"
  wellShaped : decision.verdict.WellShaped

theorem Decision.onContent_iff {decision : Decision} :
    decision.OnContent ↔
      decision.rule ≠ "file-not-found" ∧
        decision.rule ≠ "unreadable-file" ∧ decision.verdict.WellShaped :=
  ⟨fun ⟨missing, unreadable, shape⟩ => ⟨missing, unreadable, shape⟩,
  fun ⟨missing, unreadable, shape⟩ => ⟨missing, unreadable, shape⟩⟩

instance (decision : Decision) : Decidable decision.OnContent :=
  decidable_of_iff' _ Decision.onContent_iff

theorem backendRules_onContent :
    ∀ rule ∈ backendRules.fallback :: backendRules.rules,
      (⟨rule.name, rule.outcome⟩ : Decision).OnContent := by
  simp only [backendRules, List.forall_mem_cons, List.not_mem_nil,
    false_implies, implies_true, and_true, Verdict.settled,
    Decision.onContent_iff]
  -- Lists of characters are much faster to decide on than literals.
  repeat rw [String.toList_ofList]
  and_intros <;> decide +kernel

theorem frontendRules_onContent :
    ∀ rule ∈ frontendRules.fallback :: frontendRules.rules,
      (⟨rule.name, rule.outcome⟩ : Decision).OnContent := by
  simp only [frontendRules, List.forall_mem_cons, List.not_mem_nil,
    false_implies, implies_true, and_true, Verdict.settled,
    Decision.onContent_iff]
  repeat rw [String.toList_ofList]
  and_intros <;> decide +kernel

theorem Classification.onContent_decide (classification : Classification)
    (features : Features) : (classification.decide features).OnContent :=
  decide_of_rules Decision.OnContent backendRules_onContent
    frontendRules_onContent (by decide +kernel) classification features

/-- Rule and verdict tell whether the content is missing or unreadable, and
the texts of the verdict suit its status. -/
structure Content.Suits (content : Content) (rule : Text)
    (verdict : Verdict) : Prop where
  notFound_iff : verdict.status = .notFound ↔
    content = .missing ∨ content = .unreadable
  missing_iff : rule = "file-not-found" ↔ content = .missing
  unreadable_iff : rule = "unreadable-file" ↔ content = .unreadable
  wellShaped : verdict.WellShaped

theorem Content.noText_iff {content : Content} :
    (∀ text, content ≠ .text text) ↔
      content = .missing ∨ content = .unreadable := by
  cases content <;> simp

theorem suits_assessContent (path : Text) (content : Content) :
    content.Suits (assessContent path content).rule
      (assessContent path content).verdict := by
  have notFound := (status_assessContent_eq_notFound_iff path content).trans
    Content.noText_iff
  cases content with
  | missing =>
      refine ⟨notFound, iff_of_true rfl rfl, iff_of_false ?_ nofun, ?_⟩
      · exact (by decide :
          ("file-not-found" : Text) ≠ "unreadable-file".toList)
      · exact (by decide : Verdict.fileNotFound.WellShaped)
  | unreadable =>
      refine ⟨notFound, iff_of_false ?_ nofun, iff_of_true rfl rfl, ?_⟩
      · exact (by decide :
          ("unreadable-file" : Text) ≠ "file-not-found".toList)
      · exact (by decide : Verdict.unreadable.WellShaped)
  | text text =>
      have decided := (classify path).onContent_decide
        ((assessContent path (.text text)).features.getD .absent)
      exact ⟨notFound, iff_of_false decided.notMissing nofun,
        iff_of_false decided.notUnreadable nofun, decided.wellShaped⟩

theorem isSome_features_assessContent (path : Text) (content : Content) :
    (assessContent path content).features.isSome = true ↔
      (∃ text, content = .text text) ∧
        (classify path).consultsContent = true := by
  cases content with
  | missing => simp [assessContent]
  | unreadable => simp [assessContent]
  | text text => simp [assessContent]

/-- Every assessment suits the content it is made of, whatever the path, and
holds features exactly if there is a text and the category consults it.  So
every row of a report suits the content of its path. -/
theorem verdicts_suit_contents :
    (∀ path content,
      let assessment := assessContent path content
      content.Suits assessment.rule assessment.verdict ∧
        (assessment.features.isSome = true ↔
          (∃ text, content = .text text) ∧
            assessment.classification.consultsContent = true)) ∧
    ∀ (source : ContentSource) (entries : List ManifestEntry),
      ∀ row ∈ (Report.ofEntries source entries).rows,
        (source row.path).Suits row.rule row.verdict := by
  constructor
  · intro path content
    have classified : (assessContent path content).classification =
        classify path := by
      cases content <;> rfl
    simp only [classified]
    exact ⟨suits_assessContent path content,
      isSome_features_assessContent path content⟩
  · intro source entries row member
    obtain ⟨entry, _, rfl⟩ := Report.mem_rows_ofEntries.mp member
    rw [Report.ofEntry_eq]
    exact suits_assessContent entry.path (source entry.path)

end AccessAudit
