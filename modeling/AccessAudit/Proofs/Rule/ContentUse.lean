import AccessAudit.Assessment

/-!
# Where content is consulted

A table decides and traces alike wherever its rules apply alike.  For a
category that consults no content all rules are indifferent to the features,
so leaving the content unsearched changes nothing; for every other category
some content changes the verdict.
-/

namespace AccessAudit

namespace RuleTable

variable {Category : Type}

/-- Every rule applies to both sets of features or to none of them. -/
def Indifferent (table : RuleTable Category) (category : Category)
    (features other : Features) : Prop :=
  ∀ rule ∈ table.rules,
    rule.applies category features = rule.applies category other

theorem traceFrom_congr {category : Category} {features other : Features}
    {rules : List (Rule Category)}
    (same : ∀ rule ∈ rules,
      rule.applies category features = rule.applies category other)
    (fallback : Rule Category) (decided : Bool) :
    traceFrom fallback category features decided rules =
      traceFrom fallback category other decided rules := by
  induction rules generalizing decided with
  | nil => rfl
  | cons rule rules ih =>
      have here := same rule List.mem_cons_self
      have later := ih fun next member =>
        same next (List.mem_cons_of_mem rule member)
      rw [traceFrom, traceFrom, here, later]

theorem find?_congr {category : Category} {features other : Features}
    {rules : List (Rule Category)}
    (same : ∀ rule ∈ rules,
      rule.applies category features = rule.applies category other) :
    rules.find? (·.applies category features) =
      rules.find? (·.applies category other) := by
  induction rules with
  | nil => rfl
  | cons rule rules ih =>
      have here := same rule List.mem_cons_self
      have later := ih fun next member =>
        same next (List.mem_cons_of_mem rule member)
      rw [List.find?_cons, List.find?_cons, here, later]

namespace Indifferent

variable {table : RuleTable Category} {category : Category}
  {features other : Features}

theorem trace_eq (indifferent : table.Indifferent category features other) :
    table.trace category features = table.trace category other :=
  traceFrom_congr indifferent table.fallback false

theorem evaluate_eq
    (indifferent : table.Indifferent category features other) :
    table.evaluate category features = table.evaluate category other := by
  rw [evaluate, evaluate, decisiveRule, decisiveRule,
    find?_congr indifferent]

end Indifferent

end RuleTable

/-- Among the rules for backend files, only those for controllers, routes and
services ask for features. -/
theorem backendRules_indifferent {category : BackendCategory}
    (pathOnly :
      (Classification.backend category).consultsContent = false)
    (features other : Features) :
    backendRules.Indifferent category features other := by
  have notController : category.isController = false := by
    cases category <;> first | rfl | cases pathOnly
  have notSocket : (category == .socketController) = false :=
    beq_eq_false_iff_ne.mpr (by rintro rfl; cases pathOnly)
  have notRoutes : (category == .routes) = false :=
    beq_eq_false_iff_ne.mpr (by rintro rfl; cases pathOnly)
  have notService : (category == .service) = false :=
    beq_eq_false_iff_ne.mpr (by rintro rfl; cases pathOnly)
  -- The guard on the category is false wherever features are asked for.
  simp only [RuleTable.Indifferent, backendRules, List.forall_mem_cons,
    notController, notSocket, notRoutes, notService, Bool.false_and,
    List.not_mem_nil, false_implies, implies_true, and_self]

/-- Among the rules for frontend files, only those for modals and feature
modules ask for features. -/
theorem frontendRules_indifferent {category : FrontendCategory}
    (pathOnly :
      (Classification.frontend category).consultsContent = false)
    (features other : Features) :
    frontendRules.Indifferent category features other := by
  have notModal : (category == .modal) = false :=
    beq_eq_false_iff_ne.mpr (by rintro rfl; cases pathOnly)
  have notFeatureModule : (category == .featureModule) = false :=
    beq_eq_false_iff_ne.mpr (by rintro rfl; cases pathOnly)
  simp only [RuleTable.Indifferent, frontendRules, List.forall_mem_cons,
    notModal, notFeatureModule, Bool.false_and, List.not_mem_nil,
    false_implies, implies_true, and_self]

namespace Classification

theorem decide_eq_of_pathOnly {classification : Classification}
    (pathOnly : classification.consultsContent = false)
    (features other : Features) :
    classification.decide features = classification.decide other := by
  cases classification with
  | backend category =>
      exact (backendRules_indifferent pathOnly features other).evaluate_eq
  | frontend category =>
      exact (frontendRules_indifferent pathOnly features other).evaluate_eq
  | unknown => rfl

theorem trace_eq_of_pathOnly {classification : Classification}
    (pathOnly : classification.consultsContent = false)
    (features other : Features) :
    classification.trace features = classification.trace other := by
  cases classification with
  | backend category =>
      exact (backendRules_indifferent pathOnly features other).trace_eq
  | frontend category =>
      exact (frontendRules_indifferent pathOnly features other).trace_eq
  | unknown => rfl

/-- A content that is judged differently from an empty file, if the content
of files of this classification matters. -/
def telltale : Classification → Text
  | .backend .service => "user.role"
  | .frontend _ => "PermissionButton"
  | _ => "requirePageAccess"

/-- The content that gives a file away changes the verdict on it. -/
theorem verdict_telltale_ne {classification : Classification}
    (consults : classification.consultsContent = true) :
    (classification.decide
        (Features.ofContent classification.telltale)).verdict ≠
      (classification.decide (Features.ofContent [])).verdict := by
  cases classification with
  | backend category =>
      cases category with
      | controller => decide +kernel
      | socketController => decide +kernel
      | routes => decide +kernel
      | service => decide +kernel
      | _ => cases consults
  | frontend category =>
      cases category with
      | modal => decide +kernel
      | featureModule => decide +kernel
      | _ => cases consults
  | unknown => cases consults

end Classification

/-- Searching the content only for categories that consult it never changes
a decision or a trace, and is no more than what is needed: for each of these
categories there are two contents that are judged differently. -/
theorem content_searched_iff_needed :
    (∀ path text,
      let assessment := assessContent path (.text text)
      let decision :=
        (classify path).decide (Features.ofContent text)
      assessment.rule = decision.rule ∧
        assessment.verdict = decision.verdict) ∧
    (∀ classification : Classification,
      classification.consultsContent = false → ∀ text,
        classification.decide .absent =
            classification.decide (Features.ofContent text) ∧
          classification.trace .absent =
            classification.trace (Features.ofContent text)) ∧
    ∀ classification : Classification,
      classification.consultsContent = true → ∃ first second : Text,
        (classification.decide (Features.ofContent first)).verdict ≠
          (classification.decide (Features.ofContent second)).verdict := by
  refine ⟨?_, ?_, ?_⟩
  · intro path text
    cases consults : (classify path).consultsContent with
    | true => simp [assessContent, consults]
    | false =>
        have same := Classification.decide_eq_of_pathOnly consults .absent
          (Features.ofContent text)
        simp [assessContent, consults, same]
  · intro classification pathOnly text
    exact ⟨Classification.decide_eq_of_pathOnly pathOnly _ _,
      Classification.trace_eq_of_pathOnly pathOnly _ _⟩
  · intro classification consults
    exact ⟨classification.telltale, [],
      Classification.verdict_telltale_ne consults⟩

end AccessAudit
