import AccessAudit.Assessment

/-!
# Which files are not found

No rule says that a file is not found, so that status tells that there was no
content.
-/

namespace AccessAudit

theorem RuleTable.decisiveRule_mem {Category : Type}
    (table : RuleTable Category) (category : Category)
    (features : Features) :
    table.decisiveRule category features ∈
      table.fallback :: table.rules := by
  rw [decisiveRule]
  cases found : table.rules.find? (·.applies category features) with
  | none => exact List.mem_cons_self
  | some rule =>
      exact List.mem_cons_of_mem _ (List.mem_of_find?_eq_some found)

/-- What holds of all rules holds of every decision. -/
theorem Classification.decide_of_rules (Good : Decision → Prop)
    (backend : ∀ rule ∈ backendRules.fallback :: backendRules.rules,
      Good ⟨rule.name, rule.outcome⟩)
    (frontend : ∀ rule ∈ frontendRules.fallback :: frontendRules.rules,
      Good ⟨rule.name, rule.outcome⟩)
    (unknown : Good ⟨"unknown-file-type", .unknownFileType⟩)
    (classification : Classification) (features : Features) :
    Good (classification.decide features) := by
  cases classification with
  | backend category =>
      exact backend _ (backendRules.decisiveRule_mem category features)
  | frontend category =>
      exact frontend _ (frontendRules.decisiveRule_mem category features)
  | unknown => exact unknown

theorem backendRules_status_ne_notFound :
    ∀ rule ∈ backendRules.fallback :: backendRules.rules,
      rule.outcome.status ≠ .notFound := by
  decide

theorem frontendRules_status_ne_notFound :
    ∀ rule ∈ frontendRules.fallback :: frontendRules.rules,
      rule.outcome.status ≠ .notFound := by
  decide

theorem Classification.status_decide_ne_notFound
    (classification : Classification) (features : Features) :
    (classification.decide features).verdict.status ≠ .notFound :=
  decide_of_rules (·.verdict.status ≠ .notFound)
    backendRules_status_ne_notFound frontendRules_status_ne_notFound nofun
    classification features

/-- A file is not found exactly if there is no text. -/
theorem status_assessContent_eq_notFound_iff (path : Text)
    (content : Content) :
    (assessContent path content).verdict.status = .notFound ↔
      ∀ text, content ≠ .text text := by
  cases content with
  | text text =>
      refine iff_of_false ?_ (fun none => none text rfl)
      exact (classify path).status_decide_ne_notFound _
  | missing => exact iff_of_true rfl (by simp)
  | unreadable => exact iff_of_true rfl (by simp)

end AccessAudit
