import AccessAudit.Command.Outcome

/-!
# The audit command

Every file of a manifest is assessed.  The reports are written to files, and
the report in the wanted format to the output.
-/

namespace AccessAudit

/-- What an audit works with, after arguments are laid over the
configuration. -/
structure AuditSettings where
  manifest : Text
  root : Bytes
  strict : Bool
  csv : Option Text
  summary : Option Text
deriving DecidableEq, Repr

namespace AuditSettings

/-- The directory of a manifest. -/
def directoryOf (manifest : Text) : Bytes :=
  match Path.parent? manifest with
  | some (byte :: rest) => byte :: rest
  | _ => [Path.dot]

/-- Arguments win over the configuration.  The root falls back to the
directory of the manifest. -/
def resolve (arguments : AuditArguments) (config : Config) :
    AuditSettings :=
  let manifest := arguments.manifest.getD config.manifest.path
  let reportPath (argument configured : Option Text) :=
    if arguments.noReports then none else argument.or configured
  { manifest := manifest
    root :=
      match arguments.root.or config.manifest.root with
      | some root => root
      | none => directoryOf manifest
    strict :=
      config.manifest.strictLineNumbers && !arguments.lenientManifest
    csv := reportPath arguments.csv config.output.csv
    summary := reportPath arguments.summary config.output.summary }

/-- How manifest lines are read. -/
def mode (settings : AuditSettings) : ManifestMode :=
  if settings.strict then .strict else .lenient

def reportFiles (settings : AuditSettings) (report : Report) :
    List FileOutput :=
  (settings.csv.map fun path =>
    ⟨path, report.csv, some ("CSV Report: " ++ path)⟩).toList ++
  (settings.summary.map fun path =>
    ⟨path, report.summary settings.csv, some ("Summary: " ++ path)⟩).toList

end AuditSettings

/-- The manifest in a file.  Bytes that are no UTF-8 are replaced. -/
def Workspace.loadManifest (workspace : Workspace) (path : Bytes)
    (mode : ManifestMode) : Except Failure Manifest :=
  if !workspace.isFile path then .error (.manifestNotFound path)
  else
    match workspace.read path with
    | .ok content => .ok (.parse (Utf8.decodeLossy content) mode)
    | .error problem => .error (.fileAccess path problem)

/-- The warning on malformed lines, if there are any. -/
def Manifest.warnings (manifest : Manifest) : List Diagnostic :=
  if manifest.malformed.isEmpty then []
  else
    let count := Text.ofNat manifest.malformed.length
    let numbers := Text.joinWith ", " (manifest.malformed.map Text.ofNat)
    [{ headline := .warning
       message := "Skipped " ++ count ++ " malformed manifest line(s)"
       detail := some ("line(s) " ++ numbers)
       hint := some ("Prefix each path with its line number " ++
         "(`12→backend/routes/hr.js`) or pass --lenient-manifest") }]

/-- The exit code of an audit that finds files to migrate and is told to fail
for them. -/
def migrationCode : Nat := 1

/-- The exit code of an audit that comes to its end. -/
def AuditArguments.exitCode (arguments : AuditArguments) (report : Report) :
    Nat :=
  if arguments.failOnMigration && 0 < report.tally.needsMigration then
    migrationCode
  else 0

/-- Audit the files of a manifest. -/
def AuditArguments.run (arguments : AuditArguments)
    (options : GlobalOptions) (workspace : Workspace) : Outcome :=
  match workspace.loadConfig options arguments.config with
  | .error failure => .failed workspace [] failure
  | .ok config =>
      let settings := AuditSettings.resolve arguments config
      match workspace.loadManifest settings.manifest settings.mode with
      | .error failure => .failed workspace [] failure
      | .ok manifest =>
          let report :=
            Report.ofManifest (workspace.contentSource settings.root) manifest
          let rendered :=
            report.render arguments.format options.verbosity
              (options.color == .always)
          let shown := arguments.output.map fun path =>
            ⟨path, rendered, none⟩
          let writing := workspace.writeFiles
            (settings.reportFiles report ++ shown.toList)
          let diagnostics :=
            unlessQuiet options (manifest.warnings ++ writing.notices)
          match writing.failure with
          | some failure => .failed writing.workspace diagnostics failure
          | none =>
              { workspace := writing.workspace
                output :=
                  if shown.isSome || options.quiet then [] else rendered
                diagnostics := diagnostics
                exitCode := arguments.exitCode report }

end AccessAudit
