import AccessAudit.Command.Outcome
import AccessAudit.Explanation.Console
import AccessAudit.Explanation.Structured

/-!
# The explain command

One file is assessed, and the rules that led to its verdict are shown.
-/

namespace AccessAudit

def Explanation.render (explanation : Explanation) :
    ExplanationFormat → Text
  | .text => explanation.console
  | .json => explanation.json.pretty

/-- The directory in which the path begins. -/
def ExplainArguments.rootIn (arguments : ExplainArguments)
    (config : Config) : Text :=
  (arguments.root.or config.manifest.root).getD "."

/-- Explain the verdict on a file. -/
def ExplainArguments.run (arguments : ExplainArguments)
    (options : GlobalOptions) (workspace : Workspace) : Outcome :=
  match workspace.loadConfig options arguments.config with
  | .error failure => .failed workspace [] failure
  | .ok config =>
      let source := workspace.contentSource (arguments.rootIn config)
      let explanation := explain source arguments.path
      { workspace := workspace
        output := Text.line (explanation.render arguments.format)
        diagnostics := []
        exitCode := 0 }

end AccessAudit
