import AccessAudit.Command.Outcome
import AccessAudit.Manifest
import AccessAudit.Scan

/-!
# The manifest command

Directories are scanned, and the files found are listed in a new manifest.
-/

namespace AccessAudit

/-- The directories that are scanned: those given, or those configured, which
are taken from the base. -/
def ManifestArguments.roots (arguments : ManifestArguments)
    (config : Config) : List Bytes :=
  if arguments.paths.isEmpty then
    config.scan.roots.map fun (root : Text) => Path.join arguments.base root
  else arguments.paths.map Utf8.encode

/-- The filter for the files that are listed. -/
def ManifestArguments.filter [Glob.Engine] (arguments : ManifestArguments)
    (config : Config) : Except Failure FileFilter :=
  match FileFilter.build
      (arguments.extensions.getD config.scan.extensions)
      (config.scan.exclude ++ arguments.exclude) with
  | .ok filter => .ok filter
  | .error problem => .error (.noFilter problem)

/-- Files found below roots, and the warnings on the way. -/
structure Collection where
  warnings : List Diagnostic
  files : Except Failure (List Bytes)

/-- Scan roots in order.  A root that does not exist ends the scan, or is
passed over with a warning if that is allowed. -/
def Workspace.collect (workspace : Workspace)
    (scanRoot : Bytes → Except AccessProblem (List Bytes))
    (passOverMissing : Bool) : List Bytes → Collection
  | [] => ⟨[], .ok []⟩
  | root :: roots =>
      if passOverMissing && !workspace.pathExists root then
        let rest := workspace.collect scanRoot passOverMissing roots
        { rest with
          warnings :=
            .warning ("Scan root not found, skipping: " ++
              Utf8.decodeLossy root) :: rest.warnings }
      else
        match scanRoot root with
        | .error problem => ⟨[], .error (.fileAccess root problem)⟩
        | .ok found =>
            let rest := workspace.collect scanRoot passOverMissing roots
            { rest with files := rest.files.map (found ++ ·) }

/-- List files in a new manifest. -/
def ManifestArguments.run [Glob.Engine] (arguments : ManifestArguments)
    (options : GlobalOptions) (workspace : Workspace) : Outcome :=
  match workspace.loadConfig options arguments.config with
  | .error failure => .failed workspace [] failure
  | .ok config =>
      match arguments.filter config with
      | .error failure => .failed workspace [] failure
      | .ok filter =>
          let respectIgnoreFiles :=
            config.scan.gitignore && !arguments.noGitignore
          let collection :=
            workspace.collect (workspace.scan filter respectIgnoreFiles)
              arguments.paths.isEmpty (arguments.roots config)
          match collection.files with
          | .error failure =>
              .failed workspace (unlessQuiet options collection.warnings)
                failure
          | .ok files =>
              let paths := manifestPaths arguments.base files
              let content := Manifest.format paths
              let shown := arguments.output.map fun path =>
                ⟨path, content, some ("Wrote " ++ Text.ofNat paths.length ++
                  " paths to " ++ path)⟩
              let writing := workspace.writeFiles shown.toList
              let diagnostics :=
                unlessQuiet options (collection.warnings ++ writing.notices)
              match writing.failure with
              | some failure => .failed writing.workspace diagnostics failure
              | none =>
                  { workspace := writing.workspace
                    output :=
                      if shown.isSome || options.quiet then [] else content
                    diagnostics := diagnostics
                    exitCode := 0 }

end AccessAudit
