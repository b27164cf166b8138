import AccessAudit.Proofs.Command.ExitCode
import AccessAudit.Proofs.Command.Listing
import AccessAudit.Proofs.Command.Quiet

/-!
# Failures before anything is written

Every command loads all that it needs before it writes its first file.  The
faults that it can come across on the way are listed here, each with the
failure that is reported for it.  A command fails exactly if there is such a
fault, which leaves the files as they were, or if one of its files cannot be
written.
-/

namespace AccessAudit

namespace ManifestArguments

variable [Glob.Engine] {arguments : ManifestArguments}
  {options : GlobalOptions} {workspace : Workspace}

/-- The output file of a listing, if one is asked for. -/
def Listing.outputs (listing : Listing arguments options workspace) :
    List FileOutput :=
  (arguments.output.map fun path =>
    ⟨path, Manifest.format listing.paths,
      some ("Wrote " ++ Text.ofNat listing.paths.length ++ " paths to " ++
        path)⟩).toList

/-- Once there is a listing, a run fails exactly if its file cannot be
written. -/
theorem Listing.exitCode_eq_failureCode_iff
    (listing : Listing arguments options workspace) :
    (arguments.run options workspace).exitCode = Outcome.failureCode ↔
      workspace.WriteFails listing.outputs := by
  cases written : (workspace.writeFiles listing.outputs).failure with
  | none =>
      refine iff_of_false ?_ (Workspace.failure_eq_none_iff.mp written)
      simp only [outputs, paths] at written
      simp only [run, listing.loaded, listing.built, listing.collected,
        written]
      decide
  | some problem =>
      refine iff_of_true ?_ (Workspace.writeFails_of_failure written)
      simp only [outputs, paths] at written
      simp only [run, listing.loaded, listing.built, listing.collected,
        written, Outcome.failed]

end ManifestArguments

/-- The starter configuration, as it is written. -/
def InitArguments.outputs (arguments : InitArguments) : List FileOutput :=
  [⟨arguments.output, Config.template, none⟩]

/-- Where the place is free, a run fails exactly if the file cannot be
written. -/
theorem InitArguments.exitCode_eq_failureCode_iff
    {arguments : InitArguments} {workspace : Workspace}
    (free : (workspace.pathExists arguments.output &&
      !arguments.force) = false) :
    (arguments.run workspace).exitCode = Outcome.failureCode ↔
      workspace.WriteFails arguments.outputs := by
  cases written : (workspace.writeFiles arguments.outputs).failure with
  | none =>
      refine iff_of_false ?_ (Workspace.failure_eq_none_iff.mp written)
      rw [outputs] at written
      simp [run, free, written, Outcome.failureCode]
  | some problem =>
      refine iff_of_true ?_ (Workspace.writeFails_of_failure written)
      rw [outputs] at written
      simp [run, free, written, Outcome.failed]

/-! ## Faults of the commands -/

/-- A command comes across a fault before it writes anything. -/
inductive FailsEarly [Glob.Engine] (options : GlobalOptions)
    (workspace : Workspace) : Command → Failure → Prop
  /-- The configuration cannot be read, or is not one that is supported. -/
  | config {command : Command} {file : Bytes} {failure : Failure}
      (reads : ∀ arguments, command ≠ .init arguments)
      (consults : workspace.Consults options
        (Invocation.configPath? ⟨options, command⟩) file)
      (fault : workspace.ConfigFault file failure) :
      FailsEarly options workspace command failure
  /-- There is no manifest, or it may not be read. -/
  | manifest {arguments : AuditArguments} {config : Config}
      {failure : Failure}
      (loaded : workspace.loadConfig options arguments.config = .ok config)
      (fault : workspace.ManifestFault
        (AuditSettings.resolve arguments config).manifest failure) :
      FailsEarly options workspace (.audit arguments) failure
  /-- An exclude text is no pattern, or the patterns are refused together. -/
  | filter {arguments : ManifestArguments} {config : Config}
      {failure : Failure}
      (loaded : workspace.loadConfig options arguments.config = .ok config)
      (fault : FilterFault (config.scan.exclude ++ arguments.exclude)
        failure) :
      FailsEarly options workspace (.manifest arguments) failure
  /-- A directory that is given does not exist.  Those before it are scanned
  already. -/
  | root {arguments : ManifestArguments} {config : Config}
      {filter : FileFilter} {root : Text}
      (loaded : workspace.loadConfig options arguments.config = .ok config)
      (built : arguments.filter config = .ok filter)
      (first : arguments.paths.find?
        (fun (path : Text) => !workspace.pathExists path) = some root) :
      FailsEarly options workspace (.manifest arguments)
        (.fileAccess root .missingScanRoot)
  /-- There is something in the place of the starter configuration. -/
  | taken {arguments : InitArguments}
      (present : workspace.pathExists arguments.output = true)
      (unforced : arguments.force = false) :
      FailsEarly options workspace (.init arguments) arguments.placeTaken

/-- A command has loaded all that it needs, and cannot write one of its
files. -/
inductive FailsWriting [Glob.Engine] (options : GlobalOptions)
    (workspace : Workspace) : Command → List FileOutput → Prop
  | audit {arguments : AuditArguments}
      (loading : arguments.Loading options workspace)
      (fails : workspace.WriteFails loading.files) :
      FailsWriting options workspace (.audit arguments) loading.files
  | manifest {arguments : ManifestArguments}
      (listing : arguments.Listing options workspace)
      (fails : workspace.WriteFails listing.outputs) :
      FailsWriting options workspace (.manifest arguments) listing.outputs
  | init {arguments : InitArguments}
      (free : (workspace.pathExists arguments.output &&
        !arguments.force) = false)
      (fails : workspace.WriteFails arguments.outputs) :
      FailsWriting options workspace (.init arguments) arguments.outputs

/-- The failure is all that a command leaves behind, apart from notes on its
way. -/
structure Outcome.OnlyTells (outcome : Outcome) (workspace : Workspace)
    (failure : Failure) : Prop where
  exitCode : outcome.exitCode = failureCode
  workspace : outcome.workspace = workspace
  output : outcome.output = []
  diagnostics : ∃ notes, AreNotes notes ∧
    outcome.diagnostics = notes ++ [failure.diagnostic]

variable {options : GlobalOptions} {workspace : Workspace}
  {failure : Failure}

theorem Outcome.onlyTells_failed {notes : List Diagnostic}
    (areNotes : AreNotes notes) :
    (failed workspace notes failure).OnlyTells workspace failure :=
  ⟨rfl, rfl, rfl, notes, areNotes, rfl⟩

theorem areNotes_unlessQuiet {notes : List Diagnostic}
    (areNotes : AreNotes notes) : AreNotes (unlessQuiet options notes) := by
  rw [unlessQuiet]
  split
  · exact .nil
  · exact areNotes

variable [Glob.Engine]

/-- Whatever a command comes across before it writes, it tells of that and
does nothing. -/
theorem FailsEarly.onlyTells {command : Command}
    (fails : FailsEarly options workspace command failure) :
    (Invocation.run ⟨options, command⟩ workspace).OnlyTells workspace
      failure := by
  cases fails with
  | config reads consults fault =>
      have failed := Workspace.loadConfig_eq_error_iff.mpr
        ⟨_, consults, fault⟩
      cases command with
      | audit arguments =>
          simp only [Invocation.configPath?] at failed
          simp only [Invocation.run, AuditArguments.run, failed]
          exact Outcome.onlyTells_failed .nil
      | manifest arguments =>
          simp only [Invocation.configPath?] at failed
          simp only [Invocation.run, ManifestArguments.run, failed]
          exact Outcome.onlyTells_failed .nil
      | explain arguments =>
          simp only [Invocation.configPath?] at failed
          simp only [Invocation.run, ExplainArguments.run, failed]
          exact Outcome.onlyTells_failed .nil
      | init arguments => exact absurd rfl (reads arguments)
  | @manifest arguments config failure loaded fault =>
      have failed : workspace.loadManifest _
          (AuditSettings.resolve arguments config).mode = .error failure :=
        Workspace.loadManifest_eq_error_iff.mpr fault
      simp only [Invocation.run, AuditArguments.run, loaded, failed]
      exact Outcome.onlyTells_failed .nil
  | filter loaded fault =>
      have unbuilt := ManifestArguments.filter_eq_error_iff.mpr fault
      simp only [Invocation.run, ManifestArguments.run, loaded, unbuilt]
      exact Outcome.onlyTells_failed .nil
  | @root arguments config filter root loaded built first =>
      have given : arguments.paths.isEmpty = false := by
        cases none : arguments.paths with
        | nil =>
            rw [none] at first
            cases first
        | cons path paths => rfl
      have isRoots : arguments.roots config =
          arguments.paths.map Utf8.encode := by
        simp [ManifestArguments.roots, given]
      have uncollected : ∀ respectIgnoreFiles,
          (workspace.collect (workspace.scan filter respectIgnoreFiles)
            arguments.paths.isEmpty (arguments.roots config)).files =
              .error (.fileAccess root .missingScanRoot) := by
        intro respectIgnoreFiles
        rw [Workspace.collect_eq_error_iff, isRoots]
        refine ⟨given, root, ?_, rfl⟩
        rw [List.find?_map]
        exact congrArg (Option.map Utf8.encode) first
      simp only [Invocation.run, ManifestArguments.run, loaded, built,
        uncollected]
      exact Outcome.onlyTells_failed (areNotes_unlessQuiet
        (workspace.areNotes_warnings_collect _ _ _))
  | taken present unforced =>
      simp only [Invocation.run, InitArguments.run, present, unforced,
        Bool.not_false, Bool.and_self, if_true]
      exact Outcome.onlyTells_failed .nil

/-! ## Runs that fail -/

theorem AuditArguments.failsEarly_or_failsWriting
    {arguments : AuditArguments}
    (code : (arguments.run options workspace).exitCode =
      Outcome.failureCode) :
    (∃ failure, FailsEarly options workspace (.audit arguments) failure) ∨
      ∃ files, FailsWriting options workspace (.audit arguments) files := by
  cases exitCode_eq_failureCode_iff.mp code with
  | config consults fault =>
      exact Or.inl ⟨_, .config nofun consults fault⟩
  | manifest loaded fault => exact Or.inl ⟨_, .manifest loaded fault⟩
  | write loading fails => exact Or.inr ⟨_, .audit loading fails⟩

theorem ManifestArguments.failsEarly_or_failsWriting
    {arguments : ManifestArguments}
    (code : (arguments.run options workspace).exitCode =
      Outcome.failureCode) :
    (∃ failure, FailsEarly options workspace (.manifest arguments)
      failure) ∨
      ∃ files, FailsWriting options workspace (.manifest arguments)
        files := by
  cases loaded : workspace.loadConfig options arguments.config with
  | error failure =>
      obtain ⟨file, consults, fault⟩ :=
        Workspace.loadConfig_eq_error_iff.mp loaded
      exact Or.inl ⟨_, .config nofun consults fault⟩
  | ok config =>
      cases built : arguments.filter config with
      | error failure =>
          exact Or.inl ⟨_, .filter loaded (filter_eq_error_iff.mp built)⟩
      | ok filter =>
          cases collected : (workspace.collect
              (workspace.scan filter
                (config.scan.gitignore && !arguments.noGitignore))
              arguments.paths.isEmpty (arguments.roots config)).files with
          | error failure =>
              obtain ⟨given, root, first, _⟩ :=
                Workspace.collect_eq_error_iff.mp collected
              simp only [roots, given, Bool.false_eq_true, if_false,
                List.find?_map, Option.map_eq_some_iff] at first
              obtain ⟨path, first, _⟩ := first
              exact Or.inl ⟨_, .root loaded built first⟩
          | ok files =>
              let listing : Listing arguments options workspace :=
                ⟨config, filter, files, loaded, built, collected⟩
              exact Or.inr ⟨_, .manifest listing
                (listing.exitCode_eq_failureCode_iff.mp code)⟩

theorem ExplainArguments.exists_failsEarly {arguments : ExplainArguments}
    (code : (arguments.run options workspace).exitCode =
      Outcome.failureCode) :
    ∃ failure, FailsEarly options workspace (.explain arguments)
      failure := by
  cases loaded : workspace.loadConfig options arguments.config with
  | error failure =>
      obtain ⟨file, consults, fault⟩ :=
        Workspace.loadConfig_eq_error_iff.mp loaded
      exact ⟨_, .config nofun consults fault⟩
  | ok config =>
      simp only [run, loaded] at code
      cases code

theorem InitArguments.failsEarly_or_failsWriting {arguments : InitArguments}
    (code : (arguments.run workspace).exitCode = Outcome.failureCode) :
    (∃ failure, FailsEarly options workspace (.init arguments) failure) ∨
      ∃ files, FailsWriting options workspace (.init arguments) files := by
  cases free : workspace.pathExists arguments.output && !arguments.force with
  | true =>
      rw [Bool.and_eq_true, Bool.not_eq_true'] at free
      exact Or.inl ⟨_, .taken free.1 free.2⟩
  | false =>
      exact Or.inr ⟨_, .init free
        ((exitCode_eq_failureCode_iff free).mp code)⟩

theorem FailsWriting.exitCode {command : Command} {files : List FileOutput}
    (fails : FailsWriting options workspace command files) :
    (Invocation.run ⟨options, command⟩ workspace).exitCode =
      Outcome.failureCode := by
  cases fails with
  | audit loading fails => exact loading.exitCode_of_writeFails fails
  | manifest listing fails =>
      exact listing.exitCode_eq_failureCode_iff.mpr fails
  | init free fails =>
      exact (InitArguments.exitCode_eq_failureCode_iff free).mpr fails

/-- A command fails exactly if it comes across a fault before it writes, or
if it cannot write one of its files.  In the first case no file or directory
is touched and nothing is put out. -/
theorem early_failure_keeps_files (options : GlobalOptions)
    (command : Command) (workspace : Workspace) :
    let outcome := Invocation.run ⟨options, command⟩ workspace
    (∀ failure, FailsEarly options workspace command failure →
      outcome.OnlyTells workspace failure) ∧
    (outcome.exitCode = 2 ↔
      (∃ failure, FailsEarly options workspace command failure) ∨
      ∃ files, FailsWriting options workspace command files) := by
  intro outcome
  refine ⟨fun failure fails => fails.onlyTells, ?_⟩
  constructor
  · intro code
    cases command with
    | audit arguments =>
        exact AuditArguments.failsEarly_or_failsWriting code
    | manifest arguments =>
        exact ManifestArguments.failsEarly_or_failsWriting code
    | explain arguments =>
        exact Or.inl (ExplainArguments.exists_failsEarly code)
    | init arguments =>
        exact InitArguments.failsEarly_or_failsWriting code
  · intro fails
    rcases fails with ⟨failure, early⟩ | ⟨files, writing⟩
    · exact early.onlyTells.exitCode
    · exact writing.exitCode

end AccessAudit
