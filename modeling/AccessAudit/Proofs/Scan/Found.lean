import AccessAudit.Proofs.FileSystem.Change
import AccessAudit.Proofs.Scan.Walking

/-!
# What a scan finds

With or without ignore rules, every file that a scan lists is a regular file
below what its root leads to, spelled as the root with the names on the way
down.
-/

namespace AccessAudit

namespace Workspace

/-- A regular file below what the root leads to, with its path. -/
inductive FileBelow (workspace : Workspace) (root : Bytes) : Bytes → Prop
  | intro {location names : Location} {found : StoredFile}
      (resolved : workspace.resolve .use root = .ok (.occupied location))
      (file : workspace.tree.look (location ++ names) = some (.file found))
      (proper : ∀ name ∈ names, Path.ProperName name) :
      FileBelow workspace root (names.foldl Path.join root)

/-- What is found at the entry of a path is used by that path, unless it is a
link. -/
theorem find_use_of_entry {workspace : Workspace} {path : Bytes} {node : Node}
    (found : workspace.find .entry path = .ok node)
    (notLink : ∀ target, node ≠ .link target) :
    workspace.find .use path = .ok node := by
  obtain ⟨location, resolved, there⟩ := find_eq_ok_iff.mp found
  have used : workspace.resolve .use path = .ok (.occupied location) := by
    apply resolve_use resolved
    rintro _ _ ⟨rfl⟩ target seen
    rw [Node.look, there, Option.map_some, Option.some.injEq] at seen
    cases node with
    | file file => cases seen
    | link target => exact notLink target rfl
    | directory entries => cases seen
  exact find_eq_ok_iff.mpr ⟨location, used, there⟩

theorem fileBelow_of_mem_walk {workspace : Workspace}
    (wellFormed : workspace.tree.WellFormed) {root file : Bytes} {node : Node}
    (found : workspace.find .use root = .ok node)
    (member : file ∈ node.walk root) : workspace.FileBelow root file := by
  obtain ⟨location, resolved, there⟩ := find_eq_ok_iff.mp found
  obtain ⟨names, stored, isFile, proper, rfl⟩ :=
    (wellFormed.get? there).exists_of_mem_walk member
  apply FileBelow.intro resolved _ proper
  · exact stored
  · rw [Node.look_eq_file_iff, Node.get?_append, there, Option.bind_some,
      isFile]

theorem fileBelow_of_mem_scanAll {workspace : Workspace}
    (wellFormed : workspace.tree.WellFormed) {root file : Bytes}
    (member : file ∈ workspace.scanAll root) :
    workspace.FileBelow root file := by
  rw [scanAll] at member
  split at member
  · split at member
    · next entries found =>
        exact fileBelow_of_mem_walk wellFormed found member
    · cases member
  · next node notLink found =>
      have used := find_use_of_entry found notLink
      exact fileBelow_of_mem_walk wellFormed used member
  · cases member

theorem fileBelow_of_mem_scanKept {workspace : Workspace}
    (wellFormed : workspace.tree.WellFormed) {root file : Bytes}
    (member : file ∈ workspace.scanKept root) :
    workspace.FileBelow root file := by
  rw [scanKept] at member
  split at member
  · cases member
  · split at member
    · next node found =>
        have walked := (node.walkKept_sublist_walk _ _ _ _).subset member
        exact fileBelow_of_mem_walk wellFormed found walked
    · cases member

/-- A file that a scan lists passes the filter and lies below the root. -/
theorem mem_scan {workspace : Workspace} {filter : FileFilter}
    {respectIgnoreFiles : Bool} {root file : Bytes} {files : List Bytes}
    (scanned : workspace.scan filter respectIgnoreFiles root = .ok files)
    (member : file ∈ files) :
    filter.includes file = true ∧
      (workspace.tree.WellFormed → workspace.FileBelow root file) := by
  rw [scan] at scanned
  split at scanned
  · cases scanned
  · cases scanned
    obtain ⟨listed, included⟩ := List.mem_filter.mp member
    refine ⟨included, fun wellFormed => ?_⟩
    split at listed
    · exact fileBelow_of_mem_scanKept wellFormed listed
    · exact fileBelow_of_mem_scanAll wellFormed listed

end Workspace

end AccessAudit
