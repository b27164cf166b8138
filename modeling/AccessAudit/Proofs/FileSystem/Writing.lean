import AccessAudit.Proofs.FileSystem.Frame

/-!
# What writing a file changes

A file is written after the directories above it are made.  If that succeeds,
the path leads to the written content, and no other file is different.
-/

namespace AccessAudit

/-- The file that is at a location once a content is written there.  A file
that is there keeps its permissions. -/
def Node.written (tree : Node) (location : Location) (content : Bytes) :
    StoredFile :=
  match tree.look location with
  | some (.file old) => { old with content := content }
  | _ => { content := content }

@[simp]
theorem Node.content_written (tree : Node) (location : Location)
    (content : Bytes) : (tree.written location content).content = content := by
  rw [written]
  split <;> rfl

theorem Node.written_of_file {tree : Node} {location : Location}
    {old : StoredFile} (seen : tree.look location = some (.file old))
    (content : Bytes) :
    tree.written location content = { old with content := content } := by
  rw [written, seen]

theorem Node.written_of_free {tree : Node} {location : Location}
    (free : tree.look location = none) (content : Bytes) :
    tree.written location content = { content := content } := by
  rw [written, free]

/-- Writing over what was written leaves the permissions that were there
before both. -/
theorem Node.written_eq_of_look {before after : Node} {location : Location}
    (content : Bytes)
    (look : after.look location = before.look location ∨
      after.look location = some (.file (before.written location content)))
    (later : Bytes) :
    after.written location later = before.written location later := by
  rcases look with same | written
  · rw [Node.written, same, ← Node.written]
  · rw [Node.written, written, Node.written, Node.written]
    cases before.look location with
    | none => rfl
    | some found => cases found <;> rfl

namespace Workspace

/-- A file is written at a location, and no other location looks
different. -/
structure WritesAt (before after : Workspace) (location : Location)
    (content : Bytes) : Prop where
  current : after.current = before.current
  look : ∀ other, after.tree.look other =
    if other = location then some (.file (before.tree.written location content))
    else before.tree.look other

theorem WritesAt.persists {before after : Workspace} {location : Location}
    {content : Bytes} (writes : before.WritesAt after location content)
    (writable : before.tree.Writable location) :
    before.tree.Persists after.tree := by
  intro other found seen
  rw [writes.look other]
  by_cases here : other = location
  · subst other
    rcases writable with free | ⟨old, file, _⟩
    · rw [free] at seen
      cases seen
    · cases seen.symm.trans file
      rw [Node.written_of_file file]
      exact ⟨_, if_pos rfl, .file ⟨rfl, rfl⟩⟩
  · exact ⟨found, by rw [if_neg here, seen], .refl found⟩

theorem WritesAt.written_eq {before after : Workspace}
    {location : Location} {content : Bytes}
    (writes : before.WritesAt after location content) (other : Location)
    (later : Bytes) :
    after.tree.written other later = before.tree.written other later := by
  apply Node.written_eq_of_look content
  rw [writes.look]
  by_cases here : other = location
  · subst other
    exact Or.inr (if_pos rfl)
  · exact Or.inl (if_neg here)

/-- Writing a file in a directory that exists fails and changes nothing, or
it writes where the path leads: at a free name or over a regular file that
may be written. -/
theorem writeHere_cases (workspace : Workspace) (path : Bytes)
    (content : Bytes) :
    (∃ problem, workspace.writeHere path content =
        workspace.unchanged (.error problem) ∧
      ∀ place, workspace.resolve .write path = .ok place →
        ¬workspace.tree.Writable place.location) ∨
    ∃ place, workspace.resolve .write path = .ok place ∧
      workspace.tree.Writable place.location ∧
      (workspace.writeHere path content).outcome = .ok () ∧
      workspace.WritesAt (workspace.writeHere path content).workspace
        place.location content := by
  rw [writeHere]
  cases resolved : workspace.resolve .write path with
  | error problem => exact Or.inl ⟨problem, rfl, by simp⟩
  | ok place =>
      cases place with
      | vacant directory name =>
          obtain ⟨isDirectory, free⟩ := look_of_resolve_vacant resolved
          refine Or.inr ⟨_, rfl, Or.inl free, rfl, rfl, ?_⟩
          rw [Place.location, Node.written_of_free free]
          exact look_occupy isDirectory free rfl
      | occupied location =>
          have there := look_of_resolve_occupied resolved
          have failing : (∃ found, found.Fixed ∧
              workspace.tree.look location = some found) → ∀ place,
                Except.ok (.occupied location) =
                  (.ok place : Except AccessProblem Place) →
                ¬workspace.tree.Writable place.location := by
            rintro ⟨found, fixed, seen⟩ _ ⟨rfl⟩ writable
            exact Node.writable_iff.mp writable found fixed seen
          cases found : workspace.tree.get? location with
          | none => exact absurd (by simp [Node.look, found]) there
          | some node =>
              cases node with
              | link target =>
                  refine Or.inl ⟨.isDirectory, by simp [found],
                    failing ⟨_, .link target, ?_⟩⟩
                  simp [Node.look, found, Node.surface]
              | directory entries =>
                  refine Or.inl ⟨.isDirectory, by simp [found],
                    failing ⟨_, .directory, ?_⟩⟩
                  simp [Node.look, found, Node.surface]
              | file old =>
                  have seen : workspace.tree.look location =
                      some (.file old) := Node.look_eq_file_iff.mpr found
                  simp only [found]
                  split
                  · next writable =>
                      refine Or.inr ⟨_, rfl, Or.inr ⟨old, seen, writable⟩,
                        rfl, rfl, ?_⟩
                      rw [Place.location, Node.written_of_file seen]
                      exact Node.look_set (Node.look_dropLast seen)
                        (by simp [seen]) rfl
                  · next locked =>
                      rw [Bool.not_eq_true] at locked
                      exact Or.inl ⟨.permissionDenied, rfl,
                        failing ⟨_, .locked locked, seen⟩⟩

/-- What is written is found at its path. -/
theorem resolve_of_writesAt {before after : Workspace} {path : Bytes}
    {place : Place} {content : Bytes}
    (resolved : before.resolve .write path = .ok place)
    (writable : before.tree.Writable place.location)
    (writes : before.WritesAt after place.location content) :
    after.resolve .use path = .ok (.occupied place.location) := by
  apply resolve_of_persists (resolve_use resolved (by simp)) writes.current
    (writes.persists writable)
  rintro directory name rfl
  exact ⟨_, by rw [writes.look]; exact if_pos rfl, by simp⟩

/-- The workspace with the directories in which a path is written, and
whether they could be made. -/
def prepared (workspace : Workspace) (path : Bytes) : Change :=
  match Path.parent? path with
  | none => workspace.unchanged (.ok ())
  | some parent => workspace.makeDirectories parent

theorem prepared_addsDirectories (workspace : Workspace) (path : Bytes) :
    workspace.AddsDirectories (workspace.prepared path).workspace := by
  rw [prepared]
  cases Path.parent? path with
  | none => exact .refl workspace
  | some parent => exact makeDirectories_addsDirectories workspace parent

theorem write_eq (workspace : Workspace) (path : Bytes) (content : Bytes) :
    workspace.write path content =
      match (workspace.prepared path).outcome with
      | .error _ => workspace.prepared path
      | .ok () =>
          (workspace.prepared path).workspace.writeHere path content := by
  rw [write, prepared]
  cases Path.parent? path with
  | none => rfl
  | some parent => rfl

/-- The place that a path leads to when it is written: the one found once
the directories above it are made. -/
structure WritePlace (workspace : Workspace) (path : Bytes)
    (place : Place) : Prop where
  made : (workspace.prepared path).outcome = .ok ()
  resolved : (workspace.prepared path).workspace.resolve .write path =
    .ok place

/-- Writing a file adds directories and fails, or it adds directories and
writes at the place that the path leads to. -/
theorem write_cases (workspace : Workspace) (path : Bytes)
    (content : Bytes) :
    (∃ problem,
      (workspace.write path content).outcome = .error problem ∧
      workspace.AddsDirectories (workspace.write path content).workspace ∧
      ∀ place, workspace.WritePlace path place →
        ¬(workspace.prepared path).workspace.tree.Writable
          place.location) ∨
    ∃ place, workspace.WritePlace path place ∧
      (workspace.prepared path).workspace.tree.Writable place.location ∧
      (workspace.write path content).outcome = .ok () ∧
      (workspace.prepared path).workspace.WritesAt
        (workspace.write path content).workspace place.location content := by
  have adds := workspace.prepared_addsDirectories path
  rw [write_eq]
  cases made : (workspace.prepared path).outcome with
  | error problem =>
      refine Or.inl ⟨problem, made, adds, ?_⟩
      intro place leads
      rw [leads.made] at made
      cases made
  | ok =>
      rcases writeHere_cases (workspace.prepared path).workspace path content
        with ⟨problem, failed, locked⟩ | ⟨place, resolved, written⟩
      · simp only [failed]
        exact Or.inl ⟨problem, rfl, adds, fun place leads =>
          locked place leads.resolved⟩
      · exact Or.inr ⟨place, ⟨made, resolved⟩, written⟩

/-- The written file is seen at its path. -/
theorem WritePlace.seenAt?_of_writesAt {workspace after : Workspace}
    {path : Bytes} {place : Place} {content : Bytes}
    (leads : workspace.WritePlace path place)
    (writable : (workspace.prepared path).workspace.tree.Writable
      place.location)
    (writes : (workspace.prepared path).workspace.WritesAt after
      place.location content) :
    after.seenAt? path = some (.file
      ((workspace.prepared path).workspace.tree.written place.location
        content)) := by
  have found := locate?_eq_some_iff.mpr
    ⟨_, resolve_of_writesAt leads.resolved writable writes, rfl⟩
  rw [seenAt?, found, Option.bind_some]
  exact (writes.look _).trans (if_pos rfl)

/-- After a file is written, everything that was there is there and of its
sort, and the content is found at the path. -/
theorem write_ok {workspace : Workspace} {path : Bytes} {content : Bytes}
    (success : (workspace.write path content).outcome = .ok ()) :
    let after := (workspace.write path content).workspace
    after.current = workspace.current ∧
      workspace.tree.Persists after.tree ∧
      ∃ file, after.seenAt? path = some (.file file) ∧
        file.content = content := by
  intro after
  rcases write_cases workspace path content with
    ⟨problem, failed, _⟩ | ⟨place, leads, writable, _, writes⟩
  · rw [failed] at success
    cases success
  have adds := workspace.prepared_addsDirectories path
  exact ⟨writes.current.trans adds.current,
    adds.persists.trans (writes.persists writable), _,
    leads.seenAt?_of_writesAt writable writes, Node.content_written _ _ _⟩

/-- What is written can be read, unless it is in the place of a file that may
not be read. -/
theorem readable_write_iff {workspace : Workspace} {path : Bytes}
    {content : Bytes}
    (success : (workspace.write path content).outcome = .ok ()) :
    (workspace.write path content).workspace.Readable path ↔
      ∀ location old, workspace.WritePlace path (.occupied location) →
        workspace.tree.look location = some (.file old) →
          old.isReadable = true := by
  rcases write_cases workspace path content with
    ⟨problem, failed, _⟩ | ⟨place, leads, writable, _, writes⟩
  · rw [failed] at success
    cases success
  have adds := workspace.prepared_addsDirectories path
  have seen := leads.seenAt?_of_writesAt writable writes
  simp only [readable_iff_seenAt, seen, Option.some.injEq,
    Surface.file.injEq, exists_eq_left']
  constructor
  · intro readable location old leadsThere isOld
    cases leads.resolved.symm.trans leadsThere.resolved
    rwa [Place.location, Node.written_of_file (adds.look_file_iff.mpr isOld)]
      at readable
  · intro readable
    rcases writable with free | ⟨old, isOld, _⟩
    · rw [Node.written_of_free free]
    · rw [Node.written_of_file isOld]
      have isOldBefore := adds.look_file_iff.mp isOld
      cases place with
      | occupied location => exact readable location old leads isOldBefore
      | vacant directory name =>
          have free := (look_of_resolve_vacant leads.resolved).2
          cases free.symm.trans isOld

end Workspace

end AccessAudit
