import AccessAudit.Command.Outcome
import AccessAudit.Proofs.FileSystem.InPlace

/-!
# Files written one after the other

Commands write several files in order and stop at the first failure.
`WriteFails` says what stops them.  Where the directories exist, whether the
files can be written is known before the first is, and in the end every
location holds what was written there last.
-/

namespace AccessAudit

namespace Workspace

abbrev writeFile (workspace : Workspace) (file : FileOutput) : Change :=
  workspace.write file.path (Utf8.encode file.content)

/-- One of the files cannot be written after those before it. -/
inductive WriteFails : Workspace → List FileOutput → Prop
  | here {workspace : Workspace} {file : FileOutput}
      {files : List FileOutput} {problem : AccessProblem}
      (failed : (workspace.writeFile file).outcome = .error problem) :
      WriteFails workspace (file :: files)
  | later {workspace : Workspace} {file : FileOutput}
      {files : List FileOutput}
      (written : (workspace.writeFile file).outcome = .ok ())
      (fails : WriteFails (workspace.writeFile file).workspace files) :
      WriteFails workspace (file :: files)

theorem writeFiles_cons_of_ok {workspace : Workspace} {file : FileOutput}
    {files : List FileOutput}
    (written : (workspace.writeFile file).outcome = .ok ()) :
    workspace.writeFiles (file :: files) =
      { (workspace.writeFile file).workspace.writeFiles files with
        notices := (file.notice.map Diagnostic.info).toList ++
          ((workspace.writeFile file).workspace.writeFiles
            files).notices } := by
  rw [writeFiles]
  simp only [written]

theorem failure_cons_of_error {workspace : Workspace} {file : FileOutput}
    {files : List FileOutput} {problem : AccessProblem}
    (failed : (workspace.writeFile file).outcome = .error problem) :
    (workspace.writeFiles (file :: files)).failure =
      some (.fileAccess file.path problem) := by
  rw [writeFiles]
  simp only [failed]

/-- Writing is stopped by a failure exactly if one of the files cannot be
written. -/
theorem failure_eq_none_iff {workspace : Workspace}
    {files : List FileOutput} :
    (workspace.writeFiles files).failure = none ↔
      ¬workspace.WriteFails files := by
  induction files generalizing workspace with
  | nil => exact iff_of_true rfl nofun
  | cons file files ih =>
      cases outcome : (workspace.writeFile file).outcome with
      | error problem =>
          rw [failure_cons_of_error outcome]
          exact iff_of_false (by simp) (fun none => none (.here outcome))
      | ok =>
          rw [writeFiles_cons_of_ok outcome, ih]
          refine not_congr ⟨.later outcome, fun fails => ?_⟩
          cases fails with
          | here failed =>
              rw [outcome] at failed
              cases failed
          | later _ fails => exact fails

theorem writeFails_of_failure {workspace : Workspace}
    {files : List FileOutput} {failure : Failure}
    (failed : (workspace.writeFiles files).failure = some failure) :
    workspace.WriteFails files := by
  apply Classical.byContradiction
  intro succeeds
  rw [failure_eq_none_iff.mpr succeeds] at failed
  cases failed

theorem notices_writeFiles {workspace : Workspace} {files : List FileOutput}
    (success : (workspace.writeFiles files).failure = none) :
    (workspace.writeFiles files).notices =
      files.flatMap fun file => (file.notice.map Diagnostic.info).toList := by
  induction files generalizing workspace with
  | nil => rfl
  | cons file files ih =>
      cases outcome : (workspace.writeFile file).outcome with
      | error problem =>
          rw [failure_cons_of_error outcome] at success
          cases success
      | ok =>
          rw [writeFiles_cons_of_ok outcome] at success ⊢
          rw [List.flatMap_cons]
          exact congrArg _ (ih success)

/-! ## In existing directories -/

/-- The last of the files that is written at a location. -/
def lastAt? (workspace : Workspace) (files : List FileOutput)
    (location : Location) : Option FileOutput :=
  files.reverse.find? fun file =>
    workspace.locate? .use file.path = some location

/-- What a location holds after files are written in order. -/
def afterWrites (workspace : Workspace) (files : List FileOutput)
    (location : Location) : Option Surface :=
  match workspace.lastAt? files location with
  | some file =>
      some (.file (workspace.tree.written location
        (Utf8.encode file.content)))
  | none => workspace.tree.look location

theorem lastAt?_cons (workspace : Workspace) (file : FileOutput)
    (files : List FileOutput) (location : Location) :
    workspace.lastAt? (file :: files) location =
      (workspace.lastAt? files location).or
        (if workspace.locate? .use file.path = some location then some file
        else none) := by
  simp [lastAt?, List.find?_append, List.find?_singleton]

theorem lastAt?_eq_none_iff {workspace : Workspace} {files : List FileOutput}
    {location : Location} :
    workspace.lastAt? files location = none ↔
      ∀ path : Text, path ∈ files.map (·.path) →
        workspace.locate? .use path ≠ some location := by
  simp [lastAt?]

theorem SameFrame.lastAt?_eq {workspace other : Workspace}
    (frame : workspace.SameFrame other) (files : List FileOutput)
    (location : Location) :
    other.lastAt? files location = workspace.lastAt? files location := by
  simp only [lastAt?, frame.locate?_eq]

/-- Files that can be written are, and leave the frame as it is. -/
theorem writeFiles_of_canWrite {workspace : Workspace}
    {files : List FileOutput}
    (canWrite : ∀ file ∈ files, workspace.CanWrite file.path) :
    (workspace.writeFiles files).failure = none ∧
      workspace.SameFrame (workspace.writeFiles files).workspace ∧
      ∀ location, (workspace.writeFiles files).workspace.tree.look location =
        workspace.afterWrites files location := by
  induction files generalizing workspace with
  | nil => exact ⟨rfl, .refl workspace, fun _ => rfl⟩
  | cons file files ih =>
      obtain ⟨written, reached, leads, writable, writes⟩ :=
        write_of_canWrite (canWrite file List.mem_cons_self)
          (Utf8.encode file.content)
      have frame := writes.sameFrame writable
      obtain ⟨success, later, look⟩ := ih fun other member =>
        frame.canWrite (canWrite other (List.mem_cons_of_mem file member))
      rw [writeFiles_cons_of_ok written]
      refine ⟨success, frame.trans later, fun location => ?_⟩
      -- A later file hides the first one where both lead to one location.
      rw [look, afterWrites, afterWrites, frame.lastAt?_eq, lastAt?_cons,
        leads, writes.look]
      cases workspace.lastAt? files location with
      | some last => simp only [Option.some_or, writes.written_eq]
      | none =>
          by_cases here : location = reached
          · simp [here]
          · simp [here, Ne.symm here]

/-- Files that were written in existing directories could be written from the
beginning. -/
theorem canWrite_of_writeFiles {workspace : Workspace}
    {files : List FileOutput}
    (inDirectory : ∀ file ∈ files, workspace.InDirectory file.path)
    (success : (workspace.writeFiles files).failure = none) :
    ∀ file ∈ files, workspace.CanWrite file.path := by
  induction files generalizing workspace with
  | nil => simp
  | cons file files ih =>
      cases outcome : (workspace.writeFile file).outcome with
      | error problem =>
          rw [failure_cons_of_error outcome] at success
          cases success
      | ok =>
          have first := canWrite_of_write
            (inDirectory file List.mem_cons_self) outcome
          obtain ⟨_, reached, _, writable, writes⟩ :=
            write_of_canWrite first (Utf8.encode file.content)
          have frame := writes.sameFrame writable
          rw [writeFiles_cons_of_ok outcome] at success
          -- The frame is the same before and after the first write, and so is
          -- what can be written.
          have rest := ih (fun other member => frame.inDirectory
            (inDirectory other (List.mem_cons_of_mem file member))) success
          intro other member
          rcases List.mem_cons.mp member with rfl | later
          · exact first
          · exact frame.symm.canWrite (rest other later)

/-- Writing the same files once more changes nothing. -/
theorem writeFiles_again {workspace : Workspace} {files : List FileOutput}
    (canWrite : ∀ file ∈ files, workspace.CanWrite file.path) :
    let after := (workspace.writeFiles files).workspace
    (after.writeFiles files).failure = none ∧
      after.SameFrame (after.writeFiles files).workspace ∧
      ∀ location, (after.writeFiles files).workspace.tree.look location =
        after.tree.look location := by
  intro after
  obtain ⟨_, frame, look⟩ := writeFiles_of_canWrite canWrite
  obtain ⟨success, frameAgain, lookAgain⟩ :=
    writeFiles_of_canWrite fun file member =>
      frame.canWrite (canWrite file member)
  refine ⟨success, frameAgain, fun location => ?_⟩
  rw [lookAgain, afterWrites, frame.lastAt?_eq, look, afterWrites]
  cases last : workspace.lastAt? files location with
  | none => rfl
  | some file =>
      have held := look location
      rw [afterWrites, last] at held
      simp only [Node.written_eq_of_look _ (Or.inr held)]

end Workspace

end AccessAudit
