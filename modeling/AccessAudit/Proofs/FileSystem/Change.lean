import AccessAudit.FileSystem.Write
import AccessAudit.Proofs.FileSystem.Route

/-!
# What changes to the file system leave alone

Making directories adds directories at free names and touches nothing else.
Writing a file changes the surface at the one location that the path leads
to.
-/

namespace AccessAudit

namespace Workspace

/-- Where following a path begins. -/
def start (workspace : Workspace) (path : Bytes) : Location :=
  if Path.isAbsolute path then [] else workspace.current

theorem resolve_eq_ok_iff {workspace : Workspace} {purpose : Purpose}
    {path : Bytes} {place : Place} :
    workspace.resolve purpose path = .ok place ↔
      path ≠ [] ∧ Route workspace.tree purpose linkLimit
        (workspace.start path) (Text.pieces Path.slash path) place := by
  rw [resolve]
  cases path with
  | nil => simp
  | cons c rest =>
      simp only [List.isEmpty_cons, Bool.false_eq_true, if_false, ne_eq,
        reduceCtorEq, not_false_eq_true, true_and]
      exact followLinks_eq_ok_iff

theorem find_eq_ok_iff {workspace : Workspace} {purpose : Purpose}
    {path : Bytes} {node : Node} :
    workspace.find purpose path = .ok node ↔
      ∃ location, workspace.resolve purpose path = .ok (.occupied location) ∧
        workspace.tree.get? location = some node := by
  rw [find]
  cases workspace.resolve purpose path with
  | error problem => simp
  | ok place =>
      cases place with
      | vacant directory name => simp
      | occupied location =>
          simp only [Except.ok.injEq, Place.occupied.injEq, exists_eq_left']
          cases workspace.tree.get? location <;> simp

/-- The later workspace has more directories than the earlier one, and
nothing else is different. -/
structure AddsDirectories (before after : Workspace) : Prop where
  current : after.current = before.current
  look : ∀ location,
    after.tree.look location = before.tree.look location ∨
      before.tree.look location = none ∧
        after.tree.look location = some .directory

namespace AddsDirectories

theorem refl (workspace : Workspace) : workspace.AddsDirectories workspace :=
  ⟨rfl, fun _ => Or.inl rfl⟩

theorem trans {first second third : Workspace}
    (left : first.AddsDirectories second)
    (right : second.AddsDirectories third) :
    first.AddsDirectories third where
  current := right.current.trans left.current
  look := by
    intro location
    rcases left.look location with same | ⟨free, made⟩
    · rw [← same]
      exact right.look location
    · refine Or.inr ⟨free, ?_⟩
      rcases right.look location with same | ⟨stillFree, _⟩
      · exact same.trans made
      · rw [made] at stillFree
        cases stillFree

variable {before after : Workspace}

theorem persists (adds : before.AddsDirectories after) :
    before.tree.Persists after.tree := by
  intro location found seen
  rcases adds.look location with same | ⟨free, _⟩
  · exact ⟨found, same.trans seen, .refl found⟩
  · rw [seen] at free
    cases free

theorem look_file_iff (adds : before.AddsDirectories after)
    {location : Location} {file : StoredFile} :
    after.tree.look location = some (.file file) ↔
      before.tree.look location = some (.file file) := by
  rcases adds.look location with same | ⟨free, made⟩
  · rw [same]
  · simp [free, made]

end AddsDirectories

/-- A route keeps leading to what it leads to while directories are added. -/
theorem resolve_of_persists {before after : Workspace} {purpose : Purpose}
    {path : Bytes} {place : Place}
    (resolved : before.resolve purpose path = .ok place)
    (current : after.current = before.current)
    (persists : before.tree.Persists after.tree)
    (fills : after.tree.Fills place) :
    after.resolve purpose path = .ok (.occupied place.location) := by
  rw [resolve_eq_ok_iff] at resolved ⊢
  have start : after.start path = before.start path := by
    rw [Workspace.start, Workspace.start, current]
  rw [start]
  exact ⟨resolved.1, resolved.2.filled persists fills⟩

theorem resolve_use {workspace : Workspace} {purpose : Purpose}
    {path : Bytes} {place : Place}
    (resolved : workspace.resolve purpose path = .ok place)
    (notLink : purpose = .entry → ∀ found, place = .occupied found →
      ∀ target, workspace.tree.look found ≠ some (.link target)) :
    workspace.resolve .use path = .ok place := by
  rw [resolve_eq_ok_iff] at resolved ⊢
  exact ⟨resolved.1, resolved.2.toUse notLink⟩

theorem resolve_entry {workspace : Workspace} {path : Bytes} {place : Place}
    (resolved : workspace.resolve .use path = .ok place) :
    ∃ reached, workspace.resolve .entry path = .ok reached := by
  rw [resolve_eq_ok_iff] at resolved
  obtain ⟨reached, route⟩ := resolved.2.toEntry
  exact ⟨reached, resolve_eq_ok_iff.mpr ⟨resolved.1, route⟩⟩

/-- A free name stands in a directory. -/
theorem look_of_resolve_vacant {workspace : Workspace} {purpose : Purpose}
    {path : Bytes} {directory : Location} {name : Bytes}
    (resolved : workspace.resolve purpose path =
      .ok (.vacant directory name)) :
    workspace.tree.look directory = some .directory ∧
      workspace.tree.look (directory ++ [name]) = none :=
  (resolve_eq_ok_iff.mp resolved).2.offers

theorem look_occupy {workspace : Workspace} {directory : Location}
    {name : Bytes} {new : Node}
    (isDirectory : workspace.tree.look directory = some .directory)
    (free : workspace.tree.look (directory ++ [name]) = none)
    (leaf : new.entries = []) (other : Location) :
    (workspace.occupy directory name new).tree.look other =
      if other = directory ++ [name] then some new.surface
      else workspace.tree.look other := by
  apply Node.look_set
  · simpa using isDirectory
  · simp [free]
  · exact leaf

theorem occupy_persists {workspace : Workspace} {directory : Location}
    {name : Bytes} {new : Node}
    (isDirectory : workspace.tree.look directory = some .directory)
    (free : workspace.tree.look (directory ++ [name]) = none)
    (leaf : new.entries = []) :
    workspace.tree.Persists (workspace.occupy directory name new).tree := by
  intro location found seen
  have elsewhere : location ≠ directory ++ [name] := by
    rintro rfl
    rw [free] at seen
    cases seen
  refine ⟨found, ?_, .refl found⟩
  rw [look_occupy isDirectory free leaf, if_neg elsewhere, seen]

theorem occupy_fills {workspace : Workspace} {directory : Location}
    {name : Bytes} {new : Node}
    (isDirectory : workspace.tree.look directory = some .directory)
    (free : workspace.tree.look (directory ++ [name]) = none)
    (leaf : new.entries = []) (notLink : ∀ target, new.surface ≠ .link target) :
    (workspace.occupy directory name new).tree.Fills
      (.vacant directory name) := by
  rintro _ _ ⟨rfl, rfl⟩
  refine ⟨new.surface, ?_, notLink⟩
  rw [look_occupy isDirectory free leaf, if_pos rfl]

/-- A path to a free name leads to what is put there. -/
theorem resolve_occupy {workspace : Workspace} {purpose : Purpose}
    {path : Bytes} {directory : Location} {name : Bytes} {new : Node}
    (resolved : workspace.resolve purpose path =
      .ok (.vacant directory name))
    (leaf : new.entries = []) (notLink : ∀ target, new.surface ≠ .link target) :
    (workspace.occupy directory name new).resolve .use path =
      .ok (.occupied (directory ++ [name])) := by
  obtain ⟨isDirectory, free⟩ := look_of_resolve_vacant resolved
  have used := resolve_use resolved fun _ found => by simp
  exact resolve_of_persists used rfl
    (occupy_persists isDirectory free leaf)
    (occupy_fills isDirectory free leaf notLink)

/-! ## Making directories -/

/-- Making a directory fails and changes nothing, or it makes a directory at
a free name. -/
theorem makeDirectory_cases (workspace : Workspace) (path : Bytes) :
    (∃ problem,
      workspace.makeDirectory path = workspace.unchanged (.error problem) ∧
      (problem = .notFound →
        ∀ place, workspace.resolve .entry path ≠ .ok place)) ∨
    ∃ directory name,
      workspace.resolve .entry path = .ok (.vacant directory name) ∧
      workspace.makeDirectory path =
        ⟨workspace.occupy directory name .emptyDirectory, .ok ()⟩ := by
  rw [makeDirectory]
  cases resolved : workspace.resolve .entry path with
  | error problem => exact Or.inl ⟨problem, rfl, by simp⟩
  | ok place =>
      cases place with
      | occupied location => exact Or.inl ⟨.alreadyExists, rfl, by simp⟩
      | vacant directory name => exact Or.inr ⟨directory, name, rfl, rfl⟩

theorem occupy_addsDirectories {workspace : Workspace}
    {directory : Location} {name : Bytes}
    (isDirectory : workspace.tree.look directory = some .directory)
    (free : workspace.tree.look (directory ++ [name]) = none) :
    workspace.AddsDirectories
      (workspace.occupy directory name .emptyDirectory) where
  current := rfl
  look := by
    intro location
    rw [look_occupy isDirectory free rfl]
    by_cases here : location = directory ++ [name]
    · rw [if_pos here, here]
      exact Or.inr ⟨free, rfl⟩
    · rw [if_neg here]
      exact Or.inl rfl

theorem makeDirectory_addsDirectories (workspace : Workspace)
    (path : Bytes) :
    workspace.AddsDirectories (workspace.makeDirectory path).workspace := by
  rcases makeDirectory_cases workspace path with
    ⟨problem, unmade, _⟩ | ⟨directory, name, resolved, made⟩
  · rw [unmade]
    exact .refl workspace
  · obtain ⟨isDirectory, free⟩ := look_of_resolve_vacant resolved
    rw [made]
    exact occupy_addsDirectories isDirectory free

theorem acceptExisting_workspace (change : Change) (path : Bytes) :
    (acceptExisting change path).workspace = change.workspace := by
  cases outcome : change.outcome with
  | ok => simp only [acceptExisting, outcome]
  | error problem =>
      simp only [acceptExisting, outcome]
      split
      · rfl
      · rfl

theorem makeDirectoryChain_addsDirectories (workspace : Workspace)
    (paths : List Bytes) :
    workspace.AddsDirectories
      (workspace.makeDirectoryChain paths).workspace := by
  induction paths with
  | nil => exact .refl workspace
  | cons path parents ih =>
      rw [makeDirectoryChain]
      split
      · exact .refl workspace
      · simp only
        split
        · split
          · exact ih
          · rw [acceptExisting_workspace]
            exact ih.trans (makeDirectory_addsDirectories _ path)
        · rw [acceptExisting_workspace]
          exact makeDirectory_addsDirectories workspace path

theorem makeDirectories_addsDirectories (workspace : Workspace)
    (path : Bytes) :
    workspace.AddsDirectories (workspace.makeDirectories path).workspace :=
  makeDirectoryChain_addsDirectories workspace _

end Workspace

end AccessAudit
