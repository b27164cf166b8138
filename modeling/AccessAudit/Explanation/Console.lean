import AccessAudit.Assessment

/-!
# The explanation for the console

The path with its category, the features that were found in its content, the
standing of every rule, and the verdict.
-/

namespace AccessAudit

namespace Explanation

/-- What became of the content. -/
def contentLine (explanation : Explanation) : Text :=
  match explanation.content, explanation.assessment.features with
  | .read, some _ => "read and probed"
  | .read, none => "read, not probed (decided by path)"
  | .missing, _ => "missing"
  | .unreadable, _ => "unreadable"

/-- The block of features, if content was searched. -/
def featureBlock : Option Features → Text
  | none => []
  | some features =>
      Text.line [] ++ Text.line "  Content Features:" ++
        features.entries.flatMap fun (name, present) =>
          Text.line ("    [" ++ (if present then "x" else " ") ++ "] " ++ name)

/-- The mark before a rule and the words after it. -/
def standingMarks : Standing → Text × Text
  | .decisive => ("+", "(MATCHED)")
  | .superseded => ("-", "(superseded)")
  | .inapplicable => (" ", "(no match)")

def ruleLine (step : TraceStep) : Text :=
  let (mark, words) := standingMarks step.standing
  Text.line ("    [" ++ mark ++ "] " ++ step.rule ++ " -> " ++
    step.outcome.display ++ " " ++ words)

/-- The block of rules, if any were asked. -/
def ruleBlock (ruleChain : List TraceStep) : Text :=
  if ruleChain.isEmpty then []
  else
    Text.line [] ++ Text.line "  Rule Chain (first match wins):" ++
      ruleChain.flatMap ruleLine

def verdictBlock (rule : Text) (verdict : Verdict) : Text :=
  Text.line [] ++
    Text.line ("Verdict:  " ++ verdict.status.symbol ++ " " ++
      verdict.status.display ++ " (rule: " ++ rule ++ ")") ++
    Text.line ("  Note:   " ++ verdict.note) ++
    Text.remark "  Issue:  " verdict.issue ++
    Text.remark "  Plan:   " verdict.plan

def console (explanation : Explanation) : Text :=
  let assessment := explanation.assessment
  Text.line ("Path:     " ++ assessment.path) ++
    Text.line ("Category: " ++ assessment.classification.display) ++
    Text.line ("Content:  " ++ explanation.contentLine) ++
    featureBlock assessment.features ++
    ruleBlock explanation.ruleChain ++
    verdictBlock assessment.rule assessment.verdict

end Explanation

end AccessAudit
