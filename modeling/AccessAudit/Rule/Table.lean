import AccessAudit.Feature
import AccessAudit.Verdict

/-!
# Rule tables

A table lists rules in order and closes with a fallback.  The first rule that
applies decides; a trace tells for every rule how it stood.
-/

namespace AccessAudit

/-- A named condition on category and features, with the verdict given where
the rule decides. -/
structure Rule (Category : Type) where
  name : Text
  applies : Category → Features → Bool
  outcome : Verdict

/-- Rules in order of precedence, and the rule that decides where none of
them applies. -/
structure RuleTable (Category : Type) where
  rules : List (Rule Category)
  fallback : Rule Category

/-- The deciding rule with its verdict. -/
structure Decision where
  rule : Text
  verdict : Verdict
deriving DecidableEq, Repr

/-- How a rule stood when a file was decided. -/
inductive Standing
  /-- It is the first rule that applies. -/
  | decisive
  /-- It applies, but an earlier rule has decided. -/
  | superseded
  | inapplicable
deriving DecidableEq, Repr

/-- The key of a standing in structured output. -/
def Standing.key : Standing → Text
  | .decisive => "matched"
  | .superseded => "superseded"
  | .inapplicable => "no_match"

structure TraceStep where
  rule : Text
  standing : Standing
  outcome : Status
deriving DecidableEq, Repr

namespace RuleTable

variable {Category : Type}

/-- The first rule that applies, else the fallback. -/
def decisiveRule (table : RuleTable Category) (category : Category)
    (features : Features) : Rule Category :=
  (table.rules.find? (·.applies category features)).getD table.fallback

/-- The decision of a table. -/
def evaluate (table : RuleTable Category) (category : Category)
    (features : Features) : Decision :=
  let rule := table.decisiveRule category features
  ⟨rule.name, rule.outcome⟩

/-- The trace of a list of rules and the fallback after them, where
`decided` tells whether an earlier rule has applied. -/
def traceFrom (fallback : Rule Category) (category : Category)
    (features : Features) (decided : Bool) :
    List (Rule Category) → List TraceStep
  | [] =>
      [⟨fallback.name, if decided then .superseded else .decisive,
        fallback.outcome.status⟩]
  | rule :: rules =>
      let applies := rule.applies category features
      let standing : Standing :=
        if !applies then .inapplicable
        else if decided then .superseded
        else .decisive
      ⟨rule.name, standing, rule.outcome.status⟩ ::
        traceFrom fallback category features (decided || applies) rules

/-- How every rule of the table stood, the fallback last. -/
def trace (table : RuleTable Category) (category : Category)
    (features : Features) : List TraceStep :=
  traceFrom table.fallback category features false table.rules

end RuleTable

end AccessAudit
