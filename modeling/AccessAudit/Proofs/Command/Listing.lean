import AccessAudit.Command.Manifest
import AccessAudit.Proofs.FileSystem.Writing
import AccessAudit.Proofs.Filter
import AccessAudit.Proofs.Path.Spelling
import AccessAudit.Proofs.Scan.Found
import AccessAudit.Proofs.Text.Utf8

/-!
# What a new manifest lists

A listing holds what the manifest command comes across on its way: the
configuration, the filter and the scanned files.  A run that succeeds has one,
and delivers its paths as a manifest.
-/

namespace AccessAudit

/-- What is collected comes from one of the roots. -/
theorem Workspace.exists_root_of_mem_collect {workspace : Workspace}
    {scanRoot : Bytes → Except AccessProblem (List Bytes)}
    {passOverMissing : Bool} {roots files : List Bytes} {file : Bytes}
    (collected :
      (workspace.collect scanRoot passOverMissing roots).files = .ok files)
    (member : file ∈ files) :
    ∃ root ∈ roots, ∃ found, scanRoot root = .ok found ∧ file ∈ found := by
  induction roots generalizing files with
  | nil =>
      cases collected
      cases member
  | cons root rest ih =>
      have later : ∀ {others : List Bytes},
          (workspace.collect scanRoot passOverMissing rest).files =
            .ok others → file ∈ others →
          ∃ found ∈ root :: rest, ∃ listed,
            scanRoot found = .ok listed ∧ file ∈ listed := by
        intro others below inOthers
        obtain ⟨found, isRoot, listed⟩ := ih below inOthers
        exact ⟨found, List.mem_cons_of_mem root isRoot, listed⟩
      rw [collect] at collected
      split at collected
      · exact later collected member
      · cases scanned : scanRoot root with
        | error problem =>
            rw [scanned] at collected
            cases collected
        | ok found =>
            simp only [scanned] at collected
            cases below :
                (workspace.collect scanRoot passOverMissing rest).files with
            | error failure =>
                rw [below] at collected
                cases collected
            | ok others =>
                rw [below] at collected
                cases collected
                rcases List.mem_append.mp member with here | inOthers
                · exact ⟨root, List.mem_cons_self, found, scanned, here⟩
                · exact later below inOthers

namespace ManifestArguments

/-- The way from the arguments to the scanned files. -/
structure Listing [Glob.Engine] (arguments : ManifestArguments)
    (options : GlobalOptions) (workspace : Workspace) where
  config : Config
  filter : FileFilter
  files : List Bytes
  loaded : workspace.loadConfig options arguments.config = .ok config
  built : arguments.filter config = .ok filter
  collected :
    (workspace.collect
      (workspace.scan filter
        (config.scan.gitignore && !arguments.noGitignore))
      arguments.paths.isEmpty (arguments.roots config)).files = .ok files

variable [Glob.Engine] {arguments : ManifestArguments}
  {options : GlobalOptions} {workspace : Workspace}

namespace Listing

/-- The paths on the manifest. -/
def paths (listing : Listing arguments options workspace) : List Text :=
  manifestPaths arguments.base listing.files

/-- The exclude texts of the configuration and of the arguments are the
patterns of the filter. -/
theorem map_parse_eq (listing : Listing arguments options workspace) :
    (listing.config.scan.exclude ++ arguments.exclude).map Glob.parse =
      listing.filter.excluded.map .ok := by
  have built := listing.built
  rw [ManifestArguments.filter] at built
  split at built
  · next isFilter =>
      cases built
      exact (FileFilter.build_eq_ok_iff.mp isFilter).2.1
  · cases built

/-- The scanned files are those that the configuration and the filter lead
to. -/
theorem files_eq (listing : Listing arguments options workspace)
    {config : Config} {filter : FileFilter} {files : List Bytes}
    (loaded : workspace.loadConfig options arguments.config = .ok config)
    (built : arguments.filter config = .ok filter)
    (collected :
      (workspace.collect
        (workspace.scan filter
          (config.scan.gitignore && !arguments.noGitignore))
        arguments.paths.isEmpty (arguments.roots config)).files.toOption =
          some files) : listing.files = files := by
  cases loaded.symm.trans listing.loaded
  cases built.symm.trans listing.built
  rw [listing.collected] at collected
  exact Option.some.inj collected

/-- A scanned file passes the filter and lies below one of the roots. -/
theorem exists_root_of_mem_files
    (listing : Listing arguments options workspace) {file : Bytes}
    (member : file ∈ listing.files) :
    listing.filter.includes file = true ∧
      (workspace.tree.WellFormed →
        ∃ root ∈ arguments.roots listing.config,
          workspace.FileBelow root file) := by
  obtain ⟨root, isRoot, found, scanned, inFound⟩ :=
    Workspace.exists_root_of_mem_collect listing.collected member
  obtain ⟨included, below⟩ := Workspace.mem_scan scanned inFound
  exact ⟨included, fun wellFormed => ⟨root, isRoot, below wellFormed⟩⟩

/-! ## Delivery -/

/-- The manifest is in the output file, or else on the output, and nothing
that was there is gone. -/
structure Delivered (listing : Listing arguments options workspace)
    (outcome : Outcome) : Prop where
  output : outcome.output =
    if arguments.output.isSome || options.quiet then []
    else Manifest.format listing.paths
  file : ∀ path, arguments.output = some path → ∃ file,
    outcome.workspace.seenAt? path = some (.file file) ∧
      file.content = Utf8.encode (Manifest.format listing.paths)
  current : outcome.workspace.current = workspace.current
  persists : workspace.tree.Persists outcome.workspace.tree

theorem output_run (listing : Listing arguments options workspace)
    (success : (arguments.run options workspace).exitCode = 0) :
    (arguments.run options workspace).output =
      if arguments.output.isSome || options.quiet then []
      else Manifest.format listing.paths := by
  simp only [run, listing.loaded, listing.built, listing.collected]
    at success ⊢
  split at success
  · cases success
  · simp [paths]

theorem workspace_run_of_none (listing : Listing arguments options workspace)
    (output : arguments.output = none) :
    (arguments.run options workspace).workspace = workspace := by
  simp [run, listing.loaded, listing.built, listing.collected, output,
    Workspace.writeFiles]

theorem workspace_run_of_some (listing : Listing arguments options workspace)
    {path : Text} (output : arguments.output = some path)
    (success : (arguments.run options workspace).exitCode = 0) :
    let change := workspace.write path
      (Utf8.encode (Manifest.format listing.paths))
    change.outcome = .ok () ∧
      (arguments.run options workspace).workspace = change.workspace := by
  intro change
  simp only [run, listing.loaded, listing.built, listing.collected, output,
    Option.map_some, Option.toList_some, Workspace.writeFiles]
    at success ⊢
  cases outcome : change.outcome with
  | error problem =>
      simp only [change, paths] at outcome
      simp [outcome, Outcome.failed, Outcome.failureCode] at success
  | ok =>
      simp only [change, paths] at outcome ⊢
      simp [outcome]

theorem delivered (listing : Listing arguments options workspace)
    (success : (arguments.run options workspace).exitCode = 0) :
    listing.Delivered (arguments.run options workspace) := by
  have output := listing.output_run success
  cases given : arguments.output with
  | none =>
      have unchanged := listing.workspace_run_of_none given
      constructor
      · exact output
      · simp [given]
      · rw [unchanged]
      · rw [unchanged]
        exact .refl workspace.tree
  | some path =>
      obtain ⟨written, after⟩ := listing.workspace_run_of_some given success
      obtain ⟨current, persists, found⟩ := Workspace.write_ok written
      constructor
      · exact output
      · intro other same
        rw [given, Option.some.injEq] at same
        rw [← same, after]
        exact found
      · rw [after]
        exact current
      · rw [after]
        exact persists

end Listing

theorem exists_listing
    (success : (arguments.run options workspace).exitCode = 0) :
    Nonempty (Listing arguments options workspace) := by
  rw [run] at success
  split at success
  · cases success
  · next config loaded =>
      split at success
      · cases success
      · next filter built =>
          simp only at success
          split at success
          · cases success
          · next files collected =>
              exact ⟨config, filter, files, loaded, built, collected⟩

end ManifestArguments

end AccessAudit
