import AccessAudit.Command.Audit
import AccessAudit.Command.Explain
import AccessAudit.Command.Init
import AccessAudit.Command.Manifest

/-!
# Running invocations

Every invocation runs on the files of a workspace.  Which of them it may look
at outside the current directory can be told from the paths that it names.
-/

namespace AccessAudit

def Invocation.run [Glob.Engine] (invocation : Invocation)
    (workspace : Workspace) : Outcome :=
  match invocation.command with
  | .audit arguments => arguments.run invocation.options workspace
  | .manifest arguments => arguments.run invocation.options workspace
  | .explain arguments => arguments.run invocation.options workspace
  | .init arguments => arguments.run workspace

/-- The configuration file that an invocation names. -/
def Invocation.configPath? (invocation : Invocation) : Option Text :=
  match invocation.command with
  | .audit arguments => arguments.config
  | .manifest arguments => arguments.config
  | .explain arguments => arguments.config
  | .init _ => none

/-- The paths that an invocation names, by itself or by a configuration. -/
def Invocation.namedPaths (invocation : Invocation) (config : Config) :
    List Bytes :=
  match invocation.command with
  | .audit arguments =>
      let settings := AuditSettings.resolve arguments config
      settings.root :: ([settings.manifest] ++ settings.csv.toList ++
        settings.summary.toList ++ arguments.output.toList).map Utf8.encode
  | .manifest arguments =>
      arguments.roots config ++ arguments.output.toList.map Utf8.encode
  | .explain arguments =>
      let root := arguments.rootIn config
      [root, Path.join root arguments.path]
  | .init arguments => [arguments.output]

end AccessAudit
