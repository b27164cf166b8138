import AccessAudit.Rule.Decision

/-!
# The decisive step of a trace

A trace and a decision go through the same table on their own.  They agree:
of all steps of a trace exactly one is decisive, and it is the step of the
rule that decides.
-/

namespace AccessAudit

/-- The step of a rule that decides. -/
def Decision.step (decision : Decision) : TraceStep :=
  ⟨decision.rule, .decisive, decision.verdict.status⟩

/-- The steps that decide. -/
def decisiveSteps (steps : List TraceStep) : List TraceStep :=
  steps.filter (·.standing = .decisive)

namespace RuleTable

variable {Category : Type} {category : Category} {features : Features}
  {fallback : Rule Category}

theorem traceFrom_ne_nil {decided : Bool} (rules : List (Rule Category)) :
    traceFrom fallback category features decided rules ≠ [] := by
  cases rules with
  | nil => simp [traceFrom]
  | cons rule rest => simp [traceFrom]

/-- Once a rule has decided, no later one does. -/
theorem decisiveSteps_traceFrom_true (rules : List (Rule Category)) :
    decisiveSteps (traceFrom fallback category features true rules) = [] := by
  induction rules with
  | nil => simp [decisiveSteps, traceFrom]
  | cons rule rest ih =>
      rw [decisiveSteps] at ih
      cases applies : rule.applies category features <;>
        simp [decisiveSteps, traceFrom, applies, ih]

/-- Until a rule has decided, the first that applies will, or the
fallback. -/
theorem decisiveSteps_traceFrom_false (rules : List (Rule Category)) :
    decisiveSteps (traceFrom fallback category features false rules) =
      [((⟨rules, fallback⟩ : RuleTable Category).evaluate category
        features).step] := by
  induction rules with
  | nil =>
      simp [decisiveSteps, traceFrom, evaluate, decisiveRule, Decision.step]
  | cons rule rest ih =>
      cases applies : rule.applies category features with
      | true =>
          have later : decisiveSteps
              (traceFrom fallback category features true rest) = [] :=
            decisiveSteps_traceFrom_true rest
          rw [decisiveSteps] at later
          simp [decisiveSteps, traceFrom, applies, later, evaluate,
            decisiveRule, Decision.step]
      | false =>
          have skipped :
              (⟨rule :: rest, fallback⟩ : RuleTable Category).evaluate
                category features =
                (⟨rest, fallback⟩ : RuleTable Category).evaluate category
                  features := by
            simp [evaluate, decisiveRule, applies]
          rw [skipped, ← ih]
          simp [decisiveSteps, traceFrom, applies]

theorem decisiveSteps_trace (table : RuleTable Category)
    (category : Category) (features : Features) :
    decisiveSteps (table.trace category features) =
      [(table.evaluate category features).step] :=
  decisiveSteps_traceFrom_false table.rules

end RuleTable

namespace Classification

/-- Only files of neither domain have no trace. -/
theorem trace_eq_nil_iff {classification : Classification}
    {features : Features} :
    classification.trace features = [] ↔ classification = .unknown := by
  cases classification with
  | backend category =>
      simp [trace, RuleTable.trace, RuleTable.traceFrom_ne_nil]
  | frontend category =>
      simp [trace, RuleTable.trace, RuleTable.traceFrom_ne_nil]
  | unknown => simp [trace]

/-- In the trace of a file of a domain, the deciding rule alone is
decisive. -/
theorem decisiveSteps_trace {classification : Classification}
    (known : classification ≠ .unknown) (features : Features) :
    decisiveSteps (classification.trace features) =
      [(classification.decide features).step] := by
  cases classification with
  | backend category => exact backendRules.decisiveSteps_trace _ _
  | frontend category => exact frontendRules.decisiveSteps_trace _ _
  | unknown => exact absurd rfl known

end Classification

end AccessAudit
