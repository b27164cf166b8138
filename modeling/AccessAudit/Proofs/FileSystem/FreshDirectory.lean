import AccessAudit.Proofs.FileSystem.Change
import AccessAudit.Proofs.Path.Parent

/-!
# Where missing directories are made

Making a directory with those above it either finds it there and changes
nothing, or leaves an empty directory at the path.  From an empty directory a
path without parent segments leads to a free name only.
-/

namespace AccessAudit

/-- Idle segments lead nowhere else. -/
theorem Walk.occupied_of_idle {tree : Node} {purpose : Purpose}
    {location : Location} {segments : List Bytes} {progress : Progress}
    (walk : Walk tree purpose location segments progress)
    (idle : ∀ segment ∈ segments, Path.isIdle segment = true) :
    progress = .arrived (.occupied location) := by
  induction walk with
  | arrive => rfl
  | idle _ _ _ ih =>
      exact ih fun segment member =>
        idle segment (List.mem_cons_of_mem _ member)
  | parent => exact absurd (idle _ List.mem_cons_self) (by decide)
  | entry _ plain | vacant _ plain | lastLink _ plain | link _ plain =>
      have isIdle := idle _ List.mem_cons_self
      simp [plain.notIdle] at isIdle

namespace Workspace

/-- The path leads to an empty directory, and not because it is the root. -/
structure FreshAt (workspace : Workspace) (path : Bytes) : Prop where
  nonempty : path ≠ []
  notRoot : path ≠ [Path.slash]
  leads : ∃ location, workspace.resolve .use path = .ok (.occupied location) ∧
    workspace.tree.EmptyAt location

theorem isDirectory_iff {workspace : Workspace} {path : Bytes} :
    workspace.isDirectory path = true ↔
      ∃ location, workspace.resolve .use path = .ok (.occupied location) ∧
        workspace.tree.look location = some .directory := by
  rw [isDirectory, find]
  cases resolved : workspace.resolve .use path with
  | error problem => simp
  | ok place =>
      cases place with
      | vacant directory name => simp
      | occupied location =>
          simp only [Except.ok.injEq, Place.occupied.injEq,
            exists_eq_left', Node.look]
          cases workspace.tree.get? location with
          | none => simp
          | some node => cases node <;> simp [Node.surface]

/-- Below an empty directory a path leads to a free name only. -/
theorem FreshAt.vacant_below {workspace : Workspace} {path parent : Bytes}
    (fresh : workspace.FreshAt parent)
    (isParent : Path.parent? path = some parent)
    (noParent : [Path.dot, Path.dot] ∉ Text.pieces Path.slash path)
    {purpose : Purpose} {place : Place}
    (resolved : workspace.resolve purpose path = .ok place) :
    ∃ directory name, place = .vacant directory name := by
  obtain ⟨location, leads, empty⟩ := fresh.leads
  obtain ⟨rest, whole, named⟩ :=
    Path.pieces_of_parent? isParent fresh.nonempty fresh.notRoot
  have start : workspace.start path = workspace.start parent := by
    rw [Workspace.start, Workspace.start,
      Path.isAbsolute_of_parent? isParent fresh.nonempty fresh.notRoot]
  have notAllEmpty : rest.all List.isEmpty = false := by
    obtain ⟨segment, member, notIdle⟩ := named
    rw [List.all_eq_false]
    refine ⟨segment, member, fun empty => ?_⟩
    rw [Path.isIdle, empty, Bool.true_or] at notIdle
    cases notIdle
  have route := (resolve_eq_ok_iff.mp leads).2
  obtain ⟨remaining, goesOn⟩ := route.followLinks_append notAllEmpty purpose
  have found := (resolve_eq_ok_iff.mp resolved).2
  rw [whole, start, ← followLinks_eq_ok_iff, goesOn,
    followLinks_eq_ok_iff] at found
  have restNoParent : [Path.dot, Path.dot] ∉ rest := fun member =>
    noParent (whole ▸ List.mem_append_right _ member)
  obtain ⟨name, same⟩ := found.vacant_of_emptyAt empty restNoParent named
  exact ⟨location, name, same⟩

theorem resolve_root_ne_vacant {workspace : Workspace} {purpose : Purpose}
    {directory : Location} {name : Bytes} :
    workspace.resolve purpose [Path.slash] ≠ .ok (.vacant directory name) := by
  intro resolved
  have idle : ∀ segment ∈ Text.pieces Path.slash [Path.slash],
      Path.isIdle segment = true := by
    decide
  cases (resolve_eq_ok_iff.mp resolved).2 with
  | arrive walk => cases walk.occupied_of_idle idle
  | through walk _ => cases walk.occupied_of_idle idle

/-- A directory made at a free name is empty. -/
theorem freshAt_occupy {workspace : Workspace} {path : Bytes}
    {directory : Location} {name : Bytes}
    (resolved : workspace.resolve .entry path =
      .ok (.vacant directory name)) :
    (workspace.occupy directory name .emptyDirectory).FreshAt path := by
  obtain ⟨isDirectory, free⟩ := look_of_resolve_vacant resolved
  have look := @look_occupy workspace directory name .emptyDirectory
    isDirectory free rfl
  refine ⟨(resolve_eq_ok_iff.mp resolved).1, ?_, directory ++ [name],
    resolve_occupy resolved rfl (by simp [Node.emptyDirectory, Node.surface]),
    ?_, ?_⟩
  · rintro rfl
    exact resolve_root_ne_vacant resolved
  · rw [look, if_pos rfl]
    rfl
  · intro below
    rw [look, if_neg (by simp)]
    exact Node.look_append_eq_none (by simp [free]) (by simp)

theorem acceptExisting_ok {change : Change} {path : Bytes}
    (accepted : (acceptExisting change path).outcome = .ok ()) :
    change.outcome = .ok () ∨
      change.workspace.isDirectory path = true := by
  cases outcome : change.outcome with
  | ok => exact Or.inl rfl
  | error problem =>
      rw [acceptExisting, outcome] at accepted
      simp only at accepted
      split at accepted
      · next isDirectory => exact Or.inr isDirectory
      · rw [outcome] at accepted
        cases accepted

/-- Making a directory that is accepted if it exists makes it at a free name,
or finds it and changes nothing. -/
theorem acceptExisting_makeDirectory {workspace : Workspace} {path : Bytes}
    (accepted : (acceptExisting (workspace.makeDirectory path) path).outcome =
      .ok ()) :
    (acceptExisting (workspace.makeDirectory path) path).workspace.FreshAt
        path ∨
      workspace.isDirectory path = true ∧
        (acceptExisting (workspace.makeDirectory path) path).workspace =
          workspace := by
  rw [acceptExisting_workspace]
  rcases makeDirectory_cases workspace path with
    ⟨problem, unmade, _⟩ | ⟨directory, name, resolved, made⟩
  · rw [unmade] at accepted ⊢
    rcases acceptExisting_ok accepted with success | isDirectory
    · cases success
    · exact Or.inr ⟨isDirectory, rfl⟩
  · rw [made]
    exact Or.inl (freshAt_occupy resolved)

theorem isDirectory_eq_false_of_resolve_entry {workspace : Workspace}
    {path : Bytes}
    (unresolved : ∀ place, workspace.resolve .entry path ≠ .ok place) :
    workspace.isDirectory path = false := by
  rw [Bool.eq_false_iff]
  intro isDirectory
  obtain ⟨location, resolved, _⟩ := isDirectory_iff.mp isDirectory
  obtain ⟨reached, entry⟩ := resolve_entry resolved
  exact unresolved reached entry

theorem isDirectory_eq_false_of_makeDirectory {workspace : Workspace}
    {path : Bytes}
    (missing : (workspace.makeDirectory path).outcome = .error .notFound) :
    workspace.isDirectory path = false := by
  apply isDirectory_eq_false_of_resolve_entry
  rcases makeDirectory_cases workspace path with
    ⟨problem, unmade, unresolved⟩ | ⟨directory, name, _, made⟩
  · rw [unmade] at missing
    cases missing
    exact unresolved rfl
  · rw [made] at missing
    cases missing

/-- A chain that can be made leaves everything as it is, or leaves an empty
directory at its first path, or has found that path to be a directory after
those above it were made. -/
theorem makeDirectoryChain_cons_ok {workspace : Workspace} {path : Bytes}
    {parents : List Bytes}
    (made : (workspace.makeDirectoryChain (path :: parents)).outcome =
      .ok ()) :
    let result := (workspace.makeDirectoryChain (path :: parents)).workspace
    let above := workspace.makeDirectoryChain parents
    result = workspace ∨ result.FreshAt path ∨
      above.outcome = .ok () ∧ workspace.isDirectory path = false ∧
        above.workspace.isDirectory path = true := by
  simp only
  rw [makeDirectoryChain] at made ⊢
  by_cases empty : path.isEmpty = true
  · exact Or.inl (by rw [if_pos empty]; rfl)
  rw [if_neg empty] at made ⊢
  simp only at made ⊢
  split at made
  · next missing =>
      split at made
      · next failed =>
          rw [failed] at made
          cases made
      · next aboveMade =>
          rcases acceptExisting_makeDirectory made with
            fresh | ⟨isDirectory, _⟩
          · exact Or.inr (Or.inl fresh)
          · exact Or.inr (Or.inr ⟨aboveMade,
              isDirectory_eq_false_of_makeDirectory missing, isDirectory⟩)
  · rcases acceptExisting_makeDirectory made with fresh | ⟨_, same⟩
    · exact Or.inr (Or.inl fresh)
    · exact Or.inl same

theorem makeDirectoryChain_singleton_ok {workspace : Workspace}
    {path : Bytes}
    (made : (workspace.makeDirectoryChain [path]).outcome = .ok ()) :
    let result := (workspace.makeDirectoryChain [path]).workspace
    result = workspace ∨ result.FreshAt path := by
  rcases makeDirectoryChain_cons_ok made with
    same | fresh | ⟨_, missing, found⟩
  · exact Or.inl same
  · exact Or.inr fresh
  · rw [makeDirectoryChain] at found
    exact absurd (missing.symm.trans found) (by simp)

/-- What is missing below an empty directory is no directory. -/
theorem FreshAt.isDirectory_eq_false {workspace : Workspace}
    {path parent : Bytes} (fresh : workspace.FreshAt parent)
    (isParent : Path.parent? path = some parent)
    (noParent : [Path.dot, Path.dot] ∉ Text.pieces Path.slash path) :
    workspace.isDirectory path = false := by
  rw [Bool.eq_false_iff]
  intro isDirectory
  obtain ⟨location, resolved, _⟩ := isDirectory_iff.mp isDirectory
  obtain ⟨directory, name, vacant⟩ :=
    fresh.vacant_below isParent noParent resolved
  cases vacant

/-- Making a directory with those above it changes nothing or leaves an empty
directory at the path. -/
theorem makeDirectoryChain_eq_or_freshAt {workspace : Workspace}
    (fuel : Nat) {path : Bytes}
    (noParent : [Path.dot, Path.dot] ∉ Text.pieces Path.slash path)
    (made : (workspace.makeDirectoryChain
      (Path.ancestorsWithin fuel path)).outcome = .ok ()) :
    let result := (workspace.makeDirectoryChain
      (Path.ancestorsWithin fuel path)).workspace
    result = workspace ∨ result.FreshAt path := by
  induction fuel generalizing path with
  | zero => exact makeDirectoryChain_singleton_ok made
  | succ fuel ih =>
      rw [Path.ancestorsWithin] at made ⊢
      cases isParent : Path.parent? path with
      | none =>
          simp only [isParent] at made ⊢
          exact makeDirectoryChain_singleton_ok made
      | some parent =>
          simp only [isParent] at made ⊢
          rcases makeDirectoryChain_cons_ok made with
            same | fresh | ⟨aboveMade, missing, found⟩
          · exact Or.inl same
          · exact Or.inr fresh
          · -- The directory above was missing, so it is empty now, and the
            -- path cannot have been found in it.
            have parentNoParent :=
              Path.not_mem_pieces_of_parent? isParent noParent
            rcases ih parentNoParent aboveMade with same | fresh
            · rw [same, missing] at found
              cases found
            · rw [fresh.isDirectory_eq_false isParent noParent] at found
              cases found

theorem makeDirectory_of_isDirectory {workspace : Workspace} {path : Bytes}
    (found : workspace.isDirectory path = true) :
    ∃ problem, problem ≠ .notFound ∧
      workspace.makeDirectory path = workspace.unchanged (.error problem) := by
  rcases makeDirectory_cases workspace path with
    ⟨problem, unmade, unresolved⟩ | ⟨directory, name, vacant, _⟩
  · refine ⟨problem, ?_, unmade⟩
    intro missing
    rw [isDirectory_eq_false_of_resolve_entry (unresolved missing)] at found
    cases found
  · obtain ⟨location, resolved, _⟩ := isDirectory_iff.mp found
    have used := resolve_use vacant fun _ reached => by simp
    rw [used] at resolved
    cases resolved

/-- Where a directory is, making it changes nothing. -/
theorem makeDirectories_of_isDirectory {workspace : Workspace} {path : Bytes}
    (found : workspace.isDirectory path = true) :
    workspace.makeDirectories path = workspace.unchanged (.ok ()) := by
  obtain ⟨parents, chain⟩ : ∃ parents,
      Path.ancestors path = path :: parents := by
    rw [Path.ancestors]
    cases path.length with
    | zero => exact ⟨[], rfl⟩
    | succ fuel =>
        rw [Path.ancestorsWithin]
        cases Path.parent? path with
        | none => exact ⟨[], rfl⟩
        | some parent => exact ⟨_, rfl⟩
  obtain ⟨problem, notMissing, unmade⟩ := makeDirectory_of_isDirectory found
  rw [makeDirectories, chain, makeDirectoryChain, unmade]
  split
  · rfl
  · simp only [unchanged]
    split
    · next missing =>
        cases missing
        exact absurd rfl notMissing
    · simp [acceptExisting, found, unchanged]

end Workspace

end AccessAudit
