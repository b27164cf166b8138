import AccessAudit.Assessment
import AccessAudit.Json

/-!
# The JSON explanation

An explanation as one object: the path and its classification, the features
that were found, the standing of every rule, and the verdict.
-/

namespace AccessAudit

/-- A category is its name, or an object from its name to its kind. -/
def CategoryKey.json : CategoryKey → Json
  | ⟨name, none⟩ => .string name
  | ⟨name, some kind⟩ => .object [(name, .string kind)]

/-- A classification: the domain, and the category if there is one. -/
def Classification.json (classification : Classification) : Json :=
  .object (("domain".toList, .string classification.domain.key) ::
    match classification.key? with
    | some key => [("category".toList, key.json)]
    | none => [])

/-- One switch a feature. -/
def Features.json (features : Features) : Json :=
  .object (features.entries.map fun (name, value) => (name, .boolean value))

/-- Features where content was searched, else null. -/
def optionalFeaturesJson : Option Features → Json
  | some features => features.json
  | none => .null

def TraceStep.json (step : TraceStep) : Json :=
  .object
    [ ("rule", .string step.rule),
      ("status", .string step.standing.key),
      ("outcome", .string step.outcome.key) ]

def Verdict.json (verdict : Verdict) : Json :=
  .object
    [ ("status", .string verdict.status.key),
      ("note", .string verdict.note),
      ("issue", .string verdict.issue),
      ("plan", .string verdict.plan) ]

/-- The explanation as a JSON value. -/
def Explanation.json (explanation : Explanation) : Json :=
  let assessment := explanation.assessment
  .object
    [ ("path", .string assessment.path),
      ("domain", .string assessment.classification.domain.key),
      ("classification", assessment.classification.json),
      ("content", .string explanation.content.key),
      ("features", optionalFeaturesJson assessment.features),
      ("rule_chain", .array (explanation.ruleChain.map TraceStep.json)),
      ("rule", .string assessment.rule),
      ("verdict", assessment.verdict.json) ]

end AccessAudit
