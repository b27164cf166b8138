import AccessAudit.Command.Init
import AccessAudit.Proofs.FileSystem.FreshDirectory
import AccessAudit.Proofs.FileSystem.Writing

/-!
# Which files a starter configuration may cost

Without force, a starter configuration is written only where nothing is found
at the output.  That is asked before the missing directories are made, and
making them can give the path a meaning it did not have: `missing/../kept`
leads nowhere at first and to `kept` in the end.  Files are lost on such a
detour and never otherwise.
-/

namespace AccessAudit

/-- The output leads nowhere, but to a regular file that may be written once
the directories above it are made. -/
structure Detour (workspace : Workspace) (output : Text)
    (location : Location) : Prop where
  absent : workspace.pathExists output = false
  leads : workspace.WritePlace output (.occupied location)
  file : ∃ file, workspace.tree.get? location = some (.file file) ∧
    file.isWritable = true

namespace Workspace

/-- What can be written over exists. -/
theorem pathExists_of_resolve {workspace : Workspace} {path : Text}
    {location : Location} {file : StoredFile}
    (resolved : workspace.resolve .write path = .ok (.occupied location))
    (there : workspace.tree.get? location = some (.file file)) :
    workspace.pathExists path = true := by
  have used := resolve_use resolved (by simp)
  simp [pathExists, find, used, there, Except.isOk, Except.toBool]

end Workspace

/-- A detour takes a parent segment and a missing directory. -/
theorem Detour.parent_mem {workspace : Workspace} {output : Text}
    {location : Location} (detour : Detour workspace output location) :
    Component.parent ∈ Path.components output := by
  obtain ⟨file, there, _⟩ := detour.file
  have changed : (workspace.prepared output).workspace ≠ workspace := by
    intro same
    have reached := detour.leads.resolved
    rw [same] at reached
    have found := Workspace.pathExists_of_resolve reached there
    rw [detour.absent] at found
    cases found
  rw [Path.parent_mem_components_iff]
  apply Decidable.byContradiction
  intro noParent
  have made := detour.leads.made
  have reached := detour.leads.resolved
  rw [Workspace.prepared] at made changed reached
  cases isParent : Path.parent? output with
  | none =>
      simp only [isParent] at changed
      exact changed rfl
  | some parent =>
      simp only [isParent] at made changed reached
      have parentNoParent :=
        Path.not_mem_pieces_of_parent? isParent noParent
      rcases Workspace.makeDirectoryChain_eq_or_freshAt parent.length
        parentNoParent made with same | fresh
      · exact changed same
      · obtain ⟨directory, name, vacant⟩ :=
          fresh.vacant_below isParent noParent reached
        cases vacant

theorem Detour.isDirectory_parent {workspace : Workspace} {output : Text}
    {location : Location} (detour : Detour workspace output location)
    {parent : Bytes} (isParent : Path.parent? output = some parent) :
    workspace.isDirectory parent = false := by
  rw [Bool.eq_false_iff]
  intro found
  obtain ⟨file, there, _⟩ := detour.file
  have reached := detour.leads.resolved
  rw [Workspace.prepared, isParent] at reached
  simp only [Workspace.makeDirectories_of_isDirectory found,
    Workspace.unchanged] at reached
  have known := Workspace.pathExists_of_resolve reached there
  rw [detour.absent] at known
  cases known

namespace InitArguments

/-- Without force there are three ends: the output is refused, cannot be
written, or is written. -/
theorem run_cases (output : Text) (workspace : Workspace) :
    let outcome := (InitArguments.mk output false).run workspace
    let change := workspace.write output (Utf8.encode Config.template)
    (workspace.pathExists output = true ∧
      outcome = .failed workspace []
        (InitArguments.mk output false).placeTaken) ∨
    (workspace.pathExists output = false ∧ ∃ problem,
      change.outcome = .error problem ∧
      outcome = .failed change.workspace [] (.fileAccess output problem)) ∨
    workspace.pathExists output = false ∧ change.outcome = .ok () ∧
      outcome.workspace = change.workspace ∧ outcome.diagnostics = [] ∧
      outcome.exitCode = 0 := by
  simp only
  cases found : workspace.pathExists output with
  | true => exact Or.inl ⟨rfl, by simp [InitArguments.run, found]⟩
  | false =>
      cases written : (workspace.write output
          (Utf8.encode Config.template)).outcome with
      | error problem =>
          refine Or.inr (Or.inl ⟨rfl, problem, rfl, ?_⟩)
          simp [InitArguments.run, found, Workspace.writeFiles, written]
      | ok =>
          refine Or.inr (Or.inr ⟨rfl, rfl, ?_⟩)
          simp [InitArguments.run, found, Workspace.writeFiles, written]

/-- A file stays as it is unless the output is a detour to it; then it holds
the starter configuration. -/
theorem file_kept_iff {output : Text} {workspace : Workspace}
    {location : Location} {file : StoredFile}
    (there : workspace.tree.get? location = some (.file file)) :
    ((InitArguments.mk output false).run workspace).workspace.tree.get?
        location = some (.file file) ↔
      file.content = Utf8.encode Config.template ∨
        ¬Detour workspace output location := by
  have seen := Node.look_eq_file_iff.mpr there
  rw [← Node.look_eq_file_iff]
  have adds := workspace.prepared_addsDirectories output
  have seenPrepared := adds.look_file_iff.mpr seen
  rcases run_cases output workspace with
    ⟨found, refused⟩ | ⟨absent, problem, failed, outcome⟩ |
      ⟨absent, success, after, _⟩
  · have noDetour : ¬Detour workspace output location := by
      intro detour
      rw [detour.absent] at found
      cases found
    rw [refused]
    exact iff_of_true seen (Or.inr noDetour)
  · rcases Workspace.write_cases workspace output
      (Utf8.encode Config.template) with
        ⟨_, _, addsMore, locked⟩ | ⟨place, _, _, success, _⟩
    · have noDetour : ¬Detour workspace output location := by
        intro detour
        obtain ⟨same, isSame, writable⟩ := detour.file
        cases there.symm.trans isSame
        exact locked _ detour.leads (Or.inr ⟨file, seenPrepared, writable⟩)
      rw [outcome]
      exact iff_of_true (addsMore.look_file_iff.mpr seen) (Or.inr noDetour)
    · rw [failed] at success
      cases success
  · rcases Workspace.write_cases workspace output
      (Utf8.encode Config.template) with
        ⟨_, failed, _⟩ | ⟨place, leads, writable, _, writes⟩
    · rw [failed] at success
      cases success
    rw [after, writes.look]
    by_cases here : location = place.location
    · have detour : Detour workspace output location := by
        rcases writable with free | ⟨old, isOld, writable⟩
        · rw [← here, seenPrepared] at free
          cases free
        · rw [← here, seenPrepared] at isOld
          cases isOld
          cases place with
          | occupied reached =>
              exact ⟨absent, here ▸ leads, file, there, writable⟩
          | vacant directory name =>
              have free :=
                (Workspace.look_of_resolve_vacant leads.resolved).2
              rw [here, Place.location, free] at seenPrepared
              cases seenPrepared
      rw [if_pos here, ← here, Node.written_of_file seenPrepared,
        Option.some.injEq, Surface.file.injEq, StoredFile.mk.injEq]
      exact ⟨fun same => Or.inl same.1.symm, fun kept =>
        ⟨kept.elim Eq.symm (fun clear => absurd detour clear), rfl, rfl⟩⟩
    · have noDetour : ¬Detour workspace output location := by
        intro detour
        have same := leads.resolved.symm.trans detour.leads.resolved
        cases same
        exact here rfl
      rw [if_neg here]
      exact iff_of_true seenPrepared (Or.inr noDetour)

/-- A refusal changes nothing. -/
theorem unchanged_of_refused {output : Text} {workspace : Workspace}
    {diagnostic : Diagnostic}
    (told : diagnostic ∈
      ((InitArguments.mk output false).run workspace).diagnostics)
    (refusal : diagnostic.headline = .error "Config") :
    ((InitArguments.mk output false).run workspace).workspace = workspace ∧
      ((InitArguments.mk output false).run workspace).exitCode = 2 := by
  rcases run_cases output workspace with
    ⟨_, refused⟩ | ⟨_, problem, _, outcome⟩ | ⟨_, _, _, silent, _⟩
  · rw [refused]
    exact ⟨rfl, rfl⟩
  · rw [outcome] at told
    have only :
        diagnostic = (Failure.fileAccess output problem).diagnostic := by
      simpa [Outcome.failed] using told
    rw [only] at refusal
    cases refusal
  · rw [silent] at told
    cases told

/-- A success leaves the starter configuration at the output and creates no
other file. -/
theorem written_of_success {output : Text} {workspace : Workspace}
    (success :
      ((InitArguments.mk output false).run workspace).exitCode = 0) :
    let after := ((InitArguments.mk output false).run workspace).workspace
    ∃ location, after.resolve .use output = .ok (.occupied location) ∧
      (∃ file, after.tree.get? location = some (.file file) ∧
        file.content = Utf8.encode Config.template) ∧
      ∀ other file, after.tree.get? other = some (.file file) →
        other = location ∨
          workspace.tree.get? other = some (.file file) := by
  rcases run_cases output workspace with
    ⟨_, refused⟩ | ⟨_, problem, _, outcome⟩ | ⟨_, written, after, _⟩
  · rw [refused] at success
    cases success
  · rw [outcome] at success
    cases success
  · rcases Workspace.write_cases workspace output
      (Utf8.encode Config.template) with
        ⟨_, failed, _⟩ | ⟨place, leads, writable, _, writes⟩
    · rw [failed] at written
      cases written
    have adds := workspace.prepared_addsDirectories output
    simp only [after, ← Node.look_eq_file_iff]
    refine ⟨place.location, ?_, ?_, ?_⟩
    · exact Workspace.resolve_of_writesAt leads.resolved writable writes
    · rw [writes.look, if_pos rfl]
      exact ⟨_, rfl, Node.content_written _ _ _⟩
    · intro other file seen
      rw [writes.look] at seen
      split at seen
      · next here => exact Or.inl here
      · exact Or.inr (adds.look_file_iff.mp seen)

end InitArguments

/-- Without force, an existing file changes exactly where the output is a
detour to it and the file is not the starter configuration already.  A
detour takes a parent segment in the output and a missing directory above it.
A refusal changes nothing, and a success creates no file but the output. -/
theorem init_keeps_files_iff (output : Text) (workspace : Workspace) :
    let outcome := (InitArguments.mk output false).run workspace
    let template := Utf8.encode Config.template
    (∀ location file,
      workspace.tree.get? location = some (.file file) →
        (outcome.workspace.tree.get? location = some (.file file) ↔
          file.content = template ∨ ¬Detour workspace output location)) ∧
    (∀ location, Detour workspace output location →
      Component.parent ∈ Path.components output ∧
        ∀ parent, Path.parent? output = some parent →
          workspace.isDirectory parent = false) ∧
    (∀ diagnostic ∈ outcome.diagnostics,
      diagnostic.headline = .error "Config" →
        outcome.workspace = workspace ∧ outcome.exitCode = 2) ∧
    (outcome.exitCode = 0 → ∃ location,
      outcome.workspace.resolve .use output = .ok (.occupied location) ∧
      (∃ file, outcome.workspace.tree.get? location = some (.file file) ∧
        file.content = template) ∧
      ∀ other file,
        outcome.workspace.tree.get? other = some (.file file) →
          other = location ∨
            workspace.tree.get? other = some (.file file)) := by
  refine ⟨?_, ?_, ?_, ?_⟩
  · intro location file there
    exact InitArguments.file_kept_iff there
  · intro location detour
    exact ⟨detour.parent_mem, fun _ => detour.isDirectory_parent⟩
  · intro diagnostic told refusal
    exact InitArguments.unchanged_of_refused told refusal
  · exact InitArguments.written_of_success

/-- The output `missing/../kept` leads nowhere before `missing` is made, and
`kept` is lost. -/
theorem init_overwrites_through_missing_directory :
    let mine : StoredFile := { content := Utf8.encode "mine" }
    let starter : StoredFile := { content := Utf8.encode Config.template }
    let workspace : Workspace :=
      ⟨.directory [("kept", .file mine)], [], none⟩
    let outcome := (InitArguments.mk "missing/../kept" false).run workspace
    workspace.tree.get? ["kept"] = some (.file mine) ∧
      outcome.exitCode = 0 ∧ outcome.diagnostics = [] ∧
      outcome.workspace.tree.get? ["kept"] = some (.file starter) ∧
      Utf8.encode Config.template ≠ Utf8.encode "mine" := by
  refine ⟨rfl, ?_, ?_, ?_, ?_⟩
  · decide +kernel
  · decide +kernel
  · rfl
  · decide +kernel

end AccessAudit
