import AccessAudit.Proofs.FileSystem.Frame
import AccessAudit.Proofs.FileSystem.FreshDirectory
import AccessAudit.Proofs.FileSystem.Writing

/-!
# Writing in directories that exist

Where the directory of a path exists, writing a file makes no directories.
Whether it succeeds depends on the frame of the tree, and it keeps the frame.
-/

namespace AccessAudit

namespace Workspace

/-- The directory of a path exists.  An empty parent stands for the current
directory. -/
def InDirectory (workspace : Workspace) (path : Bytes) : Prop :=
  ∀ parent, Path.parent? path = some parent →
    parent = [] ∨ workspace.isDirectory parent = true

instance (workspace : Workspace) (path : Bytes) :
    Decidable (workspace.InDirectory path) :=
  match isParent : Path.parent? path with
  | none => .isTrue fun parent same => by simp [isParent] at same
  | some parent =>
      decidable_of_iff (parent = [] ∨ workspace.isDirectory parent = true)
        (by simp [InDirectory, isParent])

/-- A file can be written without further directories: the directory of the
path exists, and the path leads to a free name or to a regular file that may
be written. -/
structure CanWrite (workspace : Workspace) (path : Bytes) : Prop where
  inDirectory : workspace.InDirectory path
  writable : ∃ location, workspace.locate? .write path = some location ∧
    workspace.tree.Writable location

namespace SameFrame

variable {workspace other : Workspace} {path : Bytes}

theorem inDirectory (frame : workspace.SameFrame other)
    (inDirectory : workspace.InDirectory path) : other.InDirectory path := by
  intro parent isParent
  rw [frame.isDirectory_eq]
  exact inDirectory parent isParent

theorem canWrite (frame : workspace.SameFrame other)
    (canWrite : workspace.CanWrite path) : other.CanWrite path := by
  obtain ⟨location, leads, writable⟩ := canWrite.writable
  refine ⟨frame.inDirectory canWrite.inDirectory, location, ?_,
    frame.tree.writable writable⟩
  rw [frame.locate?_eq, leads]

end SameFrame

theorem WritesAt.sameFrame {before after : Workspace} {location : Location}
    {content : Bytes} (writes : before.WritesAt after location content)
    (writable : before.tree.Writable location) : before.SameFrame after := by
  refine ⟨writes.current, fun other found fixed => ?_⟩
  rw [writes.look]
  by_cases here : other = location
  · subst other
    rw [if_pos rfl]
    refine iff_of_false (Node.writable_iff.mp writable found fixed) ?_
    rintro ⟨rfl⟩
    -- What is written keeps its permissions, so it is not locked.
    cases fixed with
    | locked isLocked =>
        rcases writable with free | ⟨old, file, isWritable⟩
        · rw [Node.written_of_free free] at isLocked
          cases isLocked
        · rw [Node.written_of_file file] at isLocked
          cases isLocked.symm.trans isWritable
  · rw [if_neg here]

theorem write_eq_writeHere {workspace : Workspace} {path : Bytes}
    (inDirectory : workspace.InDirectory path) (content : Bytes) :
    workspace.write path content = workspace.writeHere path content := by
  rw [write]
  cases isParent : Path.parent? path with
  | none => rfl
  | some parent =>
      have made : workspace.makeDirectories parent =
          workspace.unchanged (.ok ()) := by
        rcases inDirectory parent isParent with rfl | found
        · rfl
        · exact makeDirectories_of_isDirectory found
      simp only [made, unchanged]

theorem writeHere_of_writable {workspace : Workspace} {path : Bytes}
    {location : Location}
    (leads : workspace.locate? .write path = some location)
    (writable : workspace.tree.Writable location) (content : Bytes) :
    (workspace.writeHere path content).outcome = .ok () ∧
      workspace.WritesAt (workspace.writeHere path content).workspace
        location content := by
  obtain ⟨place, resolved, rfl⟩ := locate?_eq_some_iff.mp leads
  -- A write fails only where the place is not one to be written.
  rcases writeHere_cases workspace path content with
    ⟨problem, failed, locked⟩ | ⟨reached, again, _, success, writes⟩
  · exact absurd writable (locked place resolved)
  · cases again.symm.trans resolved
    exact ⟨success, writes⟩

/-- A file that can be written is written where its path leads. -/
theorem write_of_canWrite {workspace : Workspace} {path : Bytes}
    (canWrite : workspace.CanWrite path) (content : Bytes) :
    (workspace.write path content).outcome = .ok () ∧
      ∃ location, workspace.locate? .use path = some location ∧
        workspace.tree.Writable location ∧
        workspace.WritesAt (workspace.write path content).workspace location
          content := by
  obtain ⟨location, leads, writable⟩ := canWrite.writable
  obtain ⟨success, writes⟩ := writeHere_of_writable leads writable content
  rw [write_eq_writeHere canWrite.inDirectory]
  exact ⟨success, location, locate?_use_of_write leads, writable, writes⟩

theorem canWrite_of_write {workspace : Workspace} {path : Bytes}
    {content : Bytes} (inDirectory : workspace.InDirectory path)
    (success : (workspace.write path content).outcome = .ok ()) :
    workspace.CanWrite path := by
  refine ⟨inDirectory, ?_⟩
  rw [write_eq_writeHere inDirectory] at success
  rcases writeHere_cases workspace path content with
    ⟨problem, failed, _⟩ | ⟨place, resolved, writable, _⟩
  · rw [failed] at success
    cases success
  · exact ⟨place.location, locate?_eq_some_iff.mpr ⟨place, resolved, rfl⟩,
      writable⟩

end Workspace

end AccessAudit
