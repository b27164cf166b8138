import AccessAudit.Proofs.Command.Faults
import AccessAudit.Proofs.Command.FilesWritten
import AccessAudit.Proofs.Manifest.Accounting

/-!
# The exit code of an audit

A loading holds what an audit reads before it writes anything: the
configuration and the manifest.  The report follows from it, and from the
report the files to write.  The exit code tells whether there was a loading
and all files were written, and then whether the report has something to
migrate.
-/

namespace AccessAudit

/-- Files to migrate are counted exactly if some entry is one. -/
theorem Report.needsMigration_pos_iff {source : ContentSource}
    {manifest : Manifest} :
    0 < (ofManifest source manifest).tally.needsMigration ↔
      ∃ entry ∈ manifest.entries,
        (assess source entry.path).verdict.status = .needsMigration := by
  have counted : (ofManifest source manifest).tally.needsMigration =
      (ofEntries source manifest.entries).rows.countP
        (·.verdict.status = .needsMigration) :=
    count_tally_ofEntries source manifest.entries .needsMigration
  rw [counted, List.countP_pos_iff]
  constructor
  · rintro ⟨row, member, status⟩
    obtain ⟨entry, isEntry, rfl⟩ := mem_rows_ofEntries.mp member
    rw [ofEntry_eq] at status
    exact ⟨entry, isEntry, of_decide_eq_true status⟩
  · rintro ⟨entry, isEntry, status⟩
    refine ⟨_, mem_rows_ofEntries.mpr ⟨entry, isEntry, rfl⟩, ?_⟩
    rw [ofEntry_eq]
    exact decide_eq_true status

namespace AuditArguments

/-- What an audit reads before it writes anything. -/
structure Loading (arguments : AuditArguments) (options : GlobalOptions)
    (workspace : Workspace) where
  config : Config
  manifest : Manifest
  loaded : workspace.loadConfig options arguments.config = .ok config
  parsed : workspace.loadManifest
    (AuditSettings.resolve arguments config).manifest
    (AuditSettings.resolve arguments config).mode = .ok manifest

namespace Loading

variable {arguments : AuditArguments} {options : GlobalOptions}
  {workspace : Workspace}

def settings (loading : Loading arguments options workspace) :
    AuditSettings :=
  AuditSettings.resolve arguments loading.config

/-- The files below the root, as they are before anything is written. -/
def source (loading : Loading arguments options workspace) :
    ContentSource :=
  workspace.contentSource loading.settings.root

def report (loading : Loading arguments options workspace) : Report :=
  Report.ofManifest loading.source loading.manifest

def rendered (loading : Loading arguments options workspace) : Text :=
  loading.report.render arguments.format options.verbosity
    (options.color == .always)

/-- The files to write: reports first, then the output file. -/
def files (loading : Loading arguments options workspace) :
    List FileOutput :=
  loading.settings.reportFiles loading.report ++
    (arguments.output.map fun path =>
      ⟨path, loading.rendered, none⟩).toList

/-- One of the entries is a file to migrate. -/
def FindsMigration (loading : Loading arguments options workspace) : Prop :=
  ∃ entry ∈ loading.manifest.entries,
    (assess loading.source entry.path).verdict.status = .needsMigration

/-- What an audit leaves behind that has written all its files. -/
def completed (loading : Loading arguments options workspace) :
    Outcome where
  workspace := (workspace.writeFiles loading.files).workspace
  output :=
    if arguments.output.isSome || options.quiet then []
    else loading.rendered
  diagnostics := unlessQuiet options
    (loading.manifest.warnings ++
      loading.files.flatMap fun file =>
        (file.notice.map Diagnostic.info).toList)
  exitCode := arguments.exitCode loading.report

theorem run_of_not_writeFails
    (loading : Loading arguments options workspace)
    (written : ¬workspace.WriteFails loading.files) :
    arguments.run options workspace = loading.completed := by
  have success := Workspace.failure_eq_none_iff.mpr written
  have notices := Workspace.notices_writeFiles success
  rw [completed, ← notices]
  simp only [files, rendered, report, source, settings] at success ⊢
  simp only [run, loading.loaded, loading.parsed, success,
    Option.isSome_map]

theorem exitCode_of_writeFails
    (loading : Loading arguments options workspace)
    (fails : workspace.WriteFails loading.files) :
    (arguments.run options workspace).exitCode = Outcome.failureCode := by
  cases failure : (workspace.writeFiles loading.files).failure with
  | none => exact absurd fails (Workspace.failure_eq_none_iff.mp failure)
  | some problem =>
      simp only [files, rendered, report, source, settings] at failure
      simp only [run, loading.loaded, loading.parsed, failure,
        Outcome.failed]

end Loading

/-- There is a fault in the configuration or the manifest, or one of the files
cannot be written. -/
inductive Fails (arguments : AuditArguments) (options : GlobalOptions)
    (workspace : Workspace) : Prop
  | config {file : Bytes} {failure : Failure}
      (consults : workspace.Consults options arguments.config file)
      (fault : workspace.ConfigFault file failure)
  | manifest {config : Config} {failure : Failure}
      (loaded : workspace.loadConfig options arguments.config = .ok config)
      (fault : workspace.ManifestFault
        (AuditSettings.resolve arguments config).manifest failure)
  | write (loading : Loading arguments options workspace)
      (fails : workspace.WriteFails loading.files)

variable {arguments : AuditArguments} {options : GlobalOptions}
  {workspace : Workspace}

theorem Loading.unique
    (loading other : Loading arguments options workspace) :
    loading = other := by
  obtain ⟨config, manifest, loaded, parsed⟩ := loading
  obtain ⟨otherConfig, otherManifest, again, parsedAgain⟩ := other
  cases loaded.symm.trans again
  cases parsed.symm.trans parsedAgain
  rfl

theorem exitCode_of_fails (fails : arguments.Fails options workspace) :
    (arguments.run options workspace).exitCode = Outcome.failureCode := by
  cases fails with
  | config consults fault =>
      have failed := Workspace.loadConfig_eq_error_iff.mpr
        ⟨_, consults, fault⟩
      simp only [run, failed, Outcome.failed]
  | @manifest config failure loaded fault =>
      have failed : workspace.loadManifest _
          (AuditSettings.resolve arguments config).mode = .error failure :=
        Workspace.loadManifest_eq_error_iff.mpr fault
      simp only [run, loaded, failed, Outcome.failed]
  | write loading fails => exact loading.exitCode_of_writeFails fails

/-- Without a failure there is a loading, and all its files are written. -/
theorem exists_loading (succeeds : ¬arguments.Fails options workspace) :
    ∃ loading : Loading arguments options workspace,
      ¬workspace.WriteFails loading.files := by
  cases loaded : workspace.loadConfig options arguments.config with
  | error failure =>
      obtain ⟨file, consults, fault⟩ :=
        Workspace.loadConfig_eq_error_iff.mp loaded
      exact absurd (.config consults fault) succeeds
  | ok config =>
      cases parsed : workspace.loadManifest
          (AuditSettings.resolve arguments config).manifest
          (AuditSettings.resolve arguments config).mode with
      | error failure =>
          have fault := Workspace.loadManifest_eq_error_iff.mp parsed
          exact absurd (.manifest loaded fault) succeeds
      | ok manifest =>
          refine ⟨⟨config, manifest, loaded, parsed⟩, fun fails => ?_⟩
          exact succeeds (.write _ fails)

/-- The exit code of an audit that comes to its end. -/
theorem exitCode_completed_cases
    (loading : Loading arguments options workspace) :
    (loading.completed.exitCode = 1 ∧ arguments.failOnMigration = true ∧
      loading.FindsMigration) ∨
    (loading.completed.exitCode = 0 ∧ ¬(arguments.failOnMigration = true ∧
      loading.FindsMigration)) := by
  have decides : (arguments.failOnMigration &&
        0 < loading.report.tally.needsMigration) = true ↔
      arguments.failOnMigration = true ∧ loading.FindsMigration := by
    rw [Bool.and_eq_true, decide_eq_true_eq]
    exact and_congr_right' Report.needsMigration_pos_iff
  have code : loading.completed.exitCode =
      arguments.exitCode loading.report := rfl
  rw [← decides, code, exitCode]
  split
  · next finds => exact Or.inl ⟨rfl, finds⟩
  · next clear => exact Or.inr ⟨rfl, clear⟩

theorem exitCode_eq_failureCode_iff :
    (arguments.run options workspace).exitCode = Outcome.failureCode ↔
      arguments.Fails options workspace := by
  refine ⟨fun code => Classical.byContradiction fun succeeds => ?_,
    exitCode_of_fails⟩
  obtain ⟨loading, written⟩ := exists_loading succeeds
  rw [loading.run_of_not_writeFails written] at code
  rcases exitCode_completed_cases loading with ⟨one, _⟩ | ⟨zero, _⟩
  · cases code.symm.trans one
  · cases code.symm.trans zero

end AuditArguments

/-- The exit code of an audit is 2 exactly if something cannot be loaded or
written, and 1 exactly if nothing fails, the audit is told to fail for files
to migrate, and an entry of the manifest is one.  How the report is shown and
where it is written plays no part unless a write fails. -/
theorem audit_exitCode (arguments : AuditArguments) (options : GlobalOptions)
    (workspace : Workspace) :
    let code := (arguments.run options workspace).exitCode
    (code = 2 ↔ arguments.Fails options workspace) ∧
    (code = 1 ↔ ¬arguments.Fails options workspace ∧
      arguments.failOnMigration = true ∧
      ∃ loading : arguments.Loading options workspace,
        loading.FindsMigration) ∧
    (code = 0 ∨ code = 1 ∨ code = 2) ∧
    ∀ csv summary format output noReports verbosity quiet color,
      let shown : AuditArguments :=
        { arguments with
          csv := csv
          summary := summary
          format := format
          output := output
          noReports := noReports }
      let shownOptions : GlobalOptions :=
        { options with
          verbosity := verbosity
          quiet := quiet
          color := color }
      ¬arguments.Fails options workspace →
      ¬shown.Fails shownOptions workspace →
        (shown.run shownOptions workspace).exitCode = code := by
  intro code
  refine ⟨AuditArguments.exitCode_eq_failureCode_iff, ?_⟩
  by_cases fails : arguments.Fails options workspace
  · have two : code = 2 := AuditArguments.exitCode_of_fails fails
    simp [two, fails]
  obtain ⟨loading, written⟩ := AuditArguments.exists_loading fails
  have completed : code = loading.completed.exitCode :=
    congrArg Outcome.exitCode (loading.run_of_not_writeFails written)
  have only : (∃ other : arguments.Loading options workspace,
      other.FindsMigration) ↔ loading.FindsMigration :=
    ⟨fun ⟨other, finds⟩ => other.unique loading ▸ finds,
      fun finds => ⟨loading, finds⟩⟩
  rw [only]
  refine ⟨?_, ?_, ?_⟩
  · rcases AuditArguments.exitCode_completed_cases loading with
      ⟨one, both⟩ | ⟨zero, neither⟩
    · exact iff_of_true (completed.trans one) ⟨fails, both⟩
    · refine iff_of_false ?_ fun both => neither both.2
      rw [completed, zero]
      decide
  · rcases AuditArguments.exitCode_completed_cases loading with
      ⟨one, _⟩ | ⟨zero, _⟩
    · exact Or.inr (Or.inl (completed.trans one))
    · exact Or.inl (completed.trans zero)
  · intro csv summary format output noReports verbosity quiet color shown
      shownOptions _ shownFails
    obtain ⟨shownLoading, shownWritten⟩ :=
      AuditArguments.exists_loading shownFails
    -- The other run reads the same, for reading uses none of these options.
    let again : arguments.Loading options workspace :=
      ⟨shownLoading.config, shownLoading.manifest, shownLoading.loaded,
        shownLoading.parsed⟩
    rw [shownLoading.run_of_not_writeFails shownWritten, completed,
      loading.unique again]
    rfl

end AccessAudit
