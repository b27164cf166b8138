import AccessAudit.Command.Outcome
import AccessAudit.Config.Template

/-!
# The init command

A starter configuration is written, unless something is in its place.
-/

namespace AccessAudit

/-- The failure for a place that is taken. -/
def InitArguments.placeTaken (arguments : InitArguments) : Failure :=
  .config ("Configuration file already exists: " ++ arguments.output ++
    ". Use --force to overwrite.")

/-- Write a starter configuration. -/
def InitArguments.run (arguments : InitArguments) (workspace : Workspace) :
    Outcome :=
  if workspace.pathExists arguments.output && !arguments.force then
    .failed workspace [] arguments.placeTaken
  else
    let writing :=
      workspace.writeFiles [⟨arguments.output, Config.template, none⟩]
    match writing.failure with
    | some failure => .failed writing.workspace [] failure
    | none =>
        { workspace := writing.workspace
          output :=
            Text.line ("Created configuration file: " ++ arguments.output)
          diagnostics := []
          exitCode := 0 }

end AccessAudit
