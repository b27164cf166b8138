import AccessAudit.Command.Audit
import AccessAudit.Command.Manifest
import AccessAudit.Proofs.Command.Inputs
import AccessAudit.Proofs.Filter

/-!
# Faults of the inputs

What a command reads may be missing or wrong: its configuration, its manifest,
its exclude patterns or the directories to scan.  Each fault is said of the
files and the arguments, with the failure that is reported for it, and reading
fails exactly if there is such a fault.
-/

namespace AccessAudit

namespace Workspace

/-- The configuration file that a command reads: the given one in any case,
the usual one where it exists. -/
inductive Consults (workspace : Workspace) (options : GlobalOptions) :
    Option Text → Bytes → Prop
  | given {file : Text} (wanted : options.noConfig = false) :
      Consults workspace options (some file) file
  | usual {file : Bytes} (wanted : options.noConfig = false)
      (isUsual : file = Path.join workspace.currentPath Config.fileName)
      (present : workspace.pathExists file = true) :
      Consults workspace options none file

/-- What is wrong with a configuration file. -/
inductive ConfigFault (workspace : Workspace) (file : Bytes) :
    Failure → Prop
  | unreadable {problem : AccessProblem}
      (failed : workspace.readText file = .error problem) :
      ConfigFault workspace file (.fileAccess file problem)
  | malformed {text : Text} (readable : workspace.readText file = .ok text)
      (noDocument : Toml.Document.parse? text = none) :
      ConfigFault workspace file (.unreadableConfig .malformed)
  | wrongValue {text : Text} {document : Toml.Document}
      {problem : ConfigProblem} (readable : workspace.readText file = .ok text)
      (parsed : Toml.Document.parse? text = some document)
      (wrong : Config.problem? document = some problem) :
      ConfigFault workspace file (.unreadableConfig problem)
  | version {text : Text} {document : Toml.Document} {version : Text}
      (readable : workspace.readText file = .ok text)
      (parsed : Toml.Document.parse? text = some document)
      (noProblem : Config.problem? document = none)
      (isVersion : (Config.overlay document).version = some version)
      (unsupported : version ≠ Config.supportedVersion) :
      ConfigFault workspace file (Config.unsupportedVersion version)

variable {workspace : Workspace} {options : GlobalOptions}
  {given : Option Text} {file : Bytes} {failure : Failure}

theorem loadFrom_eq_error_iff :
    Config.loadFrom workspace.configSource file = .error failure ↔
      workspace.ConfigFault file failure := by
  have sourceRead : workspace.configSource.read = workspace.readText := rfl
  rw [Config.loadFrom, sourceRead]
  constructor
  · intro failed
    split at failed
    · next text readable =>
        rw [Config.ofText] at failed
        split at failed
        · next document parsed =>
            rw [Config.ofDocument] at failed
            split at failed
            · next problem wrong =>
                cases failed
                exact .wrongValue readable parsed wrong
            · next noProblem =>
                simp only at failed
                split at failed
                · cases failed
                · next version isVersion =>
                    split at failed
                    · cases failed
                    · next unsupported =>
                        cases failed
                        exact .version readable parsed noProblem isVersion
                          unsupported
        · next noDocument =>
            cases failed
            exact .malformed readable noDocument
    · next problem unreadable =>
        cases failed
        exact .unreadable unreadable
  · intro fault
    cases fault with
    | unreadable failed => rw [failed]
    | malformed readable noDocument =>
        rw [readable]
        simp only [Config.ofText, noDocument]
    | wrongValue readable parsed wrong =>
        rw [readable]
        simp only [Config.ofText, parsed, Config.ofDocument, wrong]
    | version readable parsed noProblem isVersion unsupported =>
        rw [readable]
        simp only [Config.ofText, parsed, Config.ofDocument, noProblem,
          isVersion, unsupported, if_false]

theorem loadConfig_eq_error_iff :
    workspace.loadConfig options given = .error failure ↔
      ∃ file, workspace.Consults options given file ∧
        workspace.ConfigFault file failure := by
  simp only [loadConfig]
  cases noConfig : options.noConfig with
  | true =>
      refine iff_of_false (by simp) ?_
      rintro ⟨file, consults, _⟩
      cases consults with
      | given wanted => cases noConfig.symm.trans wanted
      | usual wanted => cases noConfig.symm.trans wanted
  | false =>
      cases given with
      | some file =>
          simp only [Bool.false_eq_true, if_false, loadFrom_eq_error_iff]
          constructor
          · intro fault
            exact ⟨file, .given noConfig, fault⟩
          · rintro ⟨file, consults, fault⟩
            cases consults with
            | given wanted => exact fault
      | none =>
          have load : Config.load workspace.configSource =
              if workspace.pathExists
                  (Path.join workspace.currentPath Config.fileName) then
                Config.loadFrom workspace.configSource
                  (Path.join workspace.currentPath Config.fileName)
              else .ok {} := rfl
          simp only [Bool.false_eq_true, if_false, load]
          split
          · next present =>
              rw [loadFrom_eq_error_iff]
              constructor
              · intro fault
                exact ⟨_, .usual noConfig rfl present, fault⟩
              · rintro ⟨file, consults, fault⟩
                cases consults with
                | usual _ isUsual _ => rwa [isUsual] at fault
          · next absent =>
              refine iff_of_false (by simp) ?_
              rintro ⟨file, consults, _⟩
              cases consults with
              | usual _ isUsual present =>
                  rw [isUsual] at present
                  exact absent present

/-- What is wrong with a manifest. -/
inductive ManifestFault (workspace : Workspace) (path : Bytes) :
    Failure → Prop
  /-- There is nothing, or what is there is no file. -/
  | missing (noFile : ∀ file, workspace.seenAt? path ≠ some (.file file)) :
      ManifestFault workspace path (.manifestNotFound path)
  /-- There is a file that may not be read. -/
  | unreadable {file : StoredFile}
      (seen : workspace.seenAt? path = some (.file file))
      (locked : file.isReadable = false) :
      ManifestFault workspace path (.fileAccess path .permissionDenied)

theorem loadManifest_eq_error_iff {path : Bytes} {mode : ManifestMode} :
    workspace.loadManifest path mode = .error failure ↔
      workspace.ManifestFault path failure := by
  rw [loadManifest]
  cases isFile : workspace.isFile path with
  | false =>
      have noFile : ∀ file, workspace.seenAt? path ≠ some (.file file) := by
        intro file seen
        rw [isFile_iff_seenAt.mpr ⟨file, seen⟩] at isFile
        cases isFile
      constructor
      · rintro ⟨rfl⟩
        exact .missing noFile
      · intro fault
        cases fault with
        | missing => rfl
        | unreadable seen => exact absurd seen (noFile _)
  | true =>
      obtain ⟨file, seen⟩ := isFile_iff_seenAt.mp isFile
      rw [read_of_seenAt seen]
      constructor
      · intro failed
        cases readable : file.isReadable with
        | true => simp [StoredFile.read, readable] at failed
        | false =>
            have isFailure :
                Failure.fileAccess path .permissionDenied = failure := by
              simpa [StoredFile.read, readable] using failed
            rw [← isFailure]
            exact .unreadable seen readable
      · intro fault
        cases fault with
        | missing noFile => exact absurd seen (noFile file)
        | unreadable other locked =>
            cases seen.symm.trans other
            simp [StoredFile.read, locked]

/-- The first of several roots that does not exist ends the scan, if it may
not be passed over. -/
theorem collect_eq_error_iff {filter : FileFilter}
    {respectIgnoreFiles passOverMissing : Bool} {roots : List Bytes} :
    (workspace.collect (workspace.scan filter respectIgnoreFiles)
        passOverMissing roots).files = .error failure ↔
      passOverMissing = false ∧ ∃ root,
        roots.find? (fun root => !workspace.pathExists root) = some root ∧
        failure = .fileAccess root .missingScanRoot := by
  induction roots with
  | nil => simp [collect]
  | cons root rest ih =>
      rw [collect, List.find?_cons, scan]
      cases present : workspace.pathExists root with
      | false =>
          cases passOverMissing with
          | true => simpa using ih
          | false =>
              simp only [Bool.not_false, Bool.and_true, Bool.false_eq_true,
                if_false, if_true, Except.error.injEq, true_and,
                Option.some.injEq, exists_eq_left']
              exact eq_comm
      | true =>
          simp only [Bool.not_true, Bool.and_false, Bool.false_eq_true,
            if_false]
          rw [← ih]
          cases (workspace.collect (workspace.scan filter respectIgnoreFiles)
            passOverMissing rest).files <;> simp [Except.map]

end Workspace

/-- What is wrong with exclude texts. -/
inductive FilterFault [Glob.Engine] (texts : List Text) : Failure → Prop
  /-- One of them is no pattern, and it is the first. -/
  | pattern {text : Text} {problem : Glob.Problem}
      (first : texts.find? (fun text => !(Glob.parse text).isOk) = some text)
      (failed : Glob.parse text = .error problem) :
      FilterFault texts (.noFilter (.invalid text problem))
  /-- All are patterns, and the engine refuses to run them together. -/
  | together {patterns : List Glob.Pattern} {reason : Text}
      (read : texts.map Glob.parse = patterns.map .ok)
      (refusal : Glob.Engine.refusal? patterns = some reason) :
      FilterFault texts (.noFilter (.refused reason))

theorem ManifestArguments.filter_eq_error_iff [Glob.Engine]
    {arguments : ManifestArguments} {config : Config} {failure : Failure} :
    arguments.filter config = .error failure ↔
      FilterFault (config.scan.exclude ++ arguments.exclude) failure := by
  rw [filter]
  constructor
  · intro failed
    split at failed
    · cases failed
    · next problem unbuilt =>
        cases failed
        cases problem with
        | invalid text problem =>
            obtain ⟨first, failed⟩ :=
              FileFilter.build_eq_invalid_iff.mp unbuilt
            exact .pattern first failed
        | refused reason =>
            obtain ⟨patterns, read, refusal⟩ :=
              FileFilter.build_eq_refused_iff.mp unbuilt
            exact .together read refusal
  · intro fault
    cases fault with
    | pattern first failed =>
        rw [FileFilter.build_eq_invalid_iff.mpr ⟨first, failed⟩]
    | together read refusal =>
        rw [FileFilter.build_eq_refused_iff.mpr ⟨_, read, refusal⟩]

end AccessAudit
