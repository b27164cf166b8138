import AccessAudit.Proofs.FileSystem.Change

/-!
# Frames of directory trees

The frame of a tree is its directories and its links, without the regular
files.  Where a path leads depends on the frame alone.  So files that come and
go change what is found at a location, but no path leads to another location
for that.
-/

namespace AccessAudit

/-- A free place, or a regular file that may be written. -/
def Node.Writable (tree : Node) (location : Location) : Prop :=
  tree.look location = none ∨ ∃ file,
    tree.look location = some (.file file) ∧ file.isWritable = true

/-- What can be read of a node. -/
def Surface.content? : Surface → Option Bytes
  | .file stored => stored.read.toOption
  | _ => none

/-- A node that writing a file never replaces. -/
inductive Surface.Fixed : Surface → Prop
  | directory : Fixed .directory
  | link (target : Bytes) : Fixed (.link target)
  | locked {file : StoredFile} (isLocked : file.isWritable = false) :
      Fixed (.file file)

/-- Two trees have the same directories, the same links and the same files
that may not be written. -/
def Node.SameFrame (tree other : Node) : Prop :=
  ∀ location found, found.Fixed →
    (tree.look location = some found ↔ other.look location = some found)

namespace Node

theorem writable_iff {tree : Node} {location : Location} :
    tree.Writable location ↔
      ∀ found, found.Fixed → tree.look location ≠ some found := by
  rw [Writable]
  cases tree.look location with
  | none => simp
  | some seen =>
      simp only [reduceCtorEq, false_or, Option.some.injEq]
      constructor
      · rintro ⟨file, rfl, writable⟩ found fixed ⟨rfl⟩
        cases fixed with
        | locked isLocked => cases writable.symm.trans isLocked
      · intro free
        cases seen with
        | file file =>
            refine ⟨file, rfl, ?_⟩
            rw [← Bool.not_eq_false]
            exact fun isLocked => free _ (.locked isLocked) rfl
        | link target => exact absurd rfl (free _ (.link target))
        | directory => exact absurd rfl (free _ .directory)

namespace SameFrame

variable {tree other third : Node}

theorem refl (tree : Node) : tree.SameFrame tree :=
  fun _ _ _ => Iff.rfl

theorem symm (frame : tree.SameFrame other) : other.SameFrame tree :=
  fun location found fixed => (frame location found fixed).symm

theorem trans (first : tree.SameFrame other)
    (second : other.SameFrame third) : tree.SameFrame third :=
  fun location found fixed =>
    (first location found fixed).trans (second location found fixed)

theorem directory (frame : tree.SameFrame other) (location : Location) :
    tree.look location = some .directory ↔
      other.look location = some .directory :=
  frame location _ .directory

theorem link (frame : tree.SameFrame other) (location : Location)
    (target : Bytes) : tree.look location = some (.link target) ↔
      other.look location = some (.link target) :=
  frame location _ (.link target)

theorem writable (frame : tree.SameFrame other) {location : Location}
    (writable : tree.Writable location) : other.Writable location := by
  rw [writable_iff] at writable ⊢
  intro found fixed seen
  exact writable found fixed ((frame location found fixed).mpr seen)

/-- Where one tree has a file, the other has one or nothing. -/
theorem free_or_file (frame : tree.SameFrame other) {location : Location}
    {file : StoredFile} (seen : tree.look location = some (.file file)) :
    other.look location = none ∨
      ∃ now, other.look location = some (.file now) := by
  cases there : other.look location with
  | none => exact Or.inl rfl
  | some found =>
      cases found with
      | file now => exact Or.inr ⟨now, rfl⟩
      | link target =>
          rw [← frame.link, seen] at there
          cases there
      | directory =>
          rw [← frame.directory, seen] at there
          cases there

end SameFrame

end Node

/-- From a regular file nothing leads on. -/
theorem Walk.arrived_of_file {tree : Node} {purpose : Purpose}
    {location : Location} {segments : List Bytes} {progress : Progress}
    {found : StoredFile}
    (walk : Walk tree purpose location segments progress)
    (file : tree.look location = some (.file found)) :
    segments = [] ∧ progress = .arrived (.occupied location) := by
  cases walk with
  | arrive => exact ⟨rfl, rfl⟩
  | idle directory | parent directory | entry directory | vacant directory
  | lastLink directory | link directory =>
      rw [file] at directory
      cases directory

/-- A walk can be made in every tree of the same frame, and leads to the same
location. -/
theorem Walk.reframe {tree other : Node} {purpose : Purpose}
    {location : Location} {segments : List Bytes} {progress : Progress}
    (walk : Walk tree purpose location segments progress)
    (frame : tree.SameFrame other) :
    ∃ there, Walk other purpose location segments there ∧
      there.filled = progress.filled := by
  induction walk with
  | arrive location => exact ⟨_, .arrive location, rfl⟩
  | idle directory isIdle _ ih =>
      obtain ⟨there, later, same⟩ := ih
      exact ⟨there, .idle ((frame.directory _).mp directory) isIdle later,
        same⟩
  | parent directory _ ih =>
      obtain ⟨there, later, same⟩ := ih
      exact ⟨there, .parent ((frame.directory _).mp directory) later, same⟩
  | @entry _ segment rest _ found directory plain admitted seen notLink
      later ih =>
      have above := (frame.directory _).mp directory
      cases found with
      | link target => exact absurd rfl (notLink target)
      | directory =>
          obtain ⟨there, later, same⟩ := ih
          exact ⟨there, .entry above plain admitted
            ((frame.directory _).mp seen) (by simp) later, same⟩
      | file file =>
          -- The file may be gone in the other tree, and then its name is free.
          obtain ⟨rfl, rfl⟩ := later.arrived_of_file seen
          rcases frame.free_or_file seen with free | ⟨now, file⟩
          · exact ⟨_, .vacant above plain free, rfl⟩
          · exact ⟨_, .entry above plain admitted file (by simp)
              (.arrive _), rfl⟩
  | vacant directory plain free =>
      have above := (frame.directory _).mp directory
      rcases frame.writable (Or.inl free) with stillFree | ⟨now, file, _⟩
      · exact ⟨_, .vacant above plain stillFree, rfl⟩
      · exact ⟨_, .entry above plain (by simp [asksForDirectory]) file
          (by simp) (.arrive _), rfl⟩
  | lastLink directory plain seen wanted =>
      exact ⟨_, .lastLink ((frame.directory _).mp directory) plain
        ((frame.link _ _).mp seen) wanted, rfl⟩
  | link directory plain admitted seen through =>
      exact ⟨_, .link ((frame.directory _).mp directory) plain admitted
        ((frame.link _ _).mp seen) through, rfl⟩

theorem Route.reframe {tree other : Node} {purpose : Purpose} {links : Nat}
    {location : Location} {segments : List Bytes} {place : Place}
    (route : Route tree purpose links location segments place)
    (frame : tree.SameFrame other) :
    ∃ there, Route other purpose links location segments there ∧
      there.location = place.location := by
  induction route with
  | arrive walk =>
      obtain ⟨progress, again, same⟩ := walk.reframe frame
      cases progress with
      | arrived there =>
          simp only [Progress.filled, Progress.arrived.injEq,
            Place.occupied.injEq] at same
          exact ⟨there, .arrive again, same⟩
      | failed | redirected => cases same
  | through walk _ ih =>
      obtain ⟨progress, again, same⟩ := walk.reframe frame
      obtain ⟨there, later, sameLocation⟩ := ih
      cases progress with
      | arrived | failed => cases same
      | redirected =>
          cases same
          exact ⟨there, .through again later, sameLocation⟩

theorem Walk.ne_nil_of_redirected {tree : Node} {purpose : Purpose}
    {location next : Location} {segments rest : List Bytes}
    {progress : Progress}
    (walk : Walk tree purpose location segments progress)
    (redirected : progress = .redirected next rest) : rest ≠ [] := by
  induction walk with
  | arrive | vacant | lastLink => cases redirected
  | idle _ _ _ ih | parent _ _ ih | entry _ _ _ _ _ _ ih =>
      exact ih redirected
  | link =>
      cases redirected
      simp [Text.pieces_ne_nil]

/-- There is something at a place that counts as occupied. -/
theorem Walk.look_of_occupied {tree : Node} {purpose : Purpose}
    {location reached : Location} {segments : List Bytes}
    {progress : Progress}
    (walk : Walk tree purpose location segments progress)
    (arrived : progress = .arrived (.occupied reached))
    (onWay : segments = [] → tree.look location ≠ none) :
    tree.look reached ≠ none := by
  induction walk with
  | arrive =>
      cases arrived
      exact onWay rfl
  | idle directory _ _ ih => exact ih arrived fun _ => by simp [directory]
  | @parent location _ _ directory _ ih =>
      -- Above a directory there is a directory.
      refine ih arrived fun _ => ?_
      by_cases top : location = []
      · simp [top]
      · simp [Node.look_dropLast directory top]
  | entry _ _ _ seen _ _ ih => exact ih arrived fun _ => by simp [seen]
  | vacant => cases arrived
  | lastLink _ _ seen =>
      cases arrived
      simp [seen]
  | link => cases arrived

theorem Route.look_of_occupied {tree : Node} {purpose : Purpose}
    {links : Nat} {location reached : Location} {segments : List Bytes}
    (route : Route tree purpose links location segments (.occupied reached))
    (nonempty : segments ≠ []) : tree.look reached ≠ none := by
  generalize isPlace : Place.occupied reached = place at route
  induction route with
  | arrive walk =>
      exact walk.look_of_occupied (by rw [isPlace]) fun none =>
        absurd none nonempty
  | through walk _ ih => exact ih (walk.ne_nil_of_redirected rfl) isPlace

namespace Workspace

/-- The location to which a path leads, whether something is there or not. -/
def locate? (workspace : Workspace) (purpose : Purpose) (path : Bytes) :
    Option Location :=
  match workspace.resolve purpose path with
  | .ok place => some place.location
  | .error _ => none

/-- What a path leads to. -/
def seenAt? (workspace : Workspace) (path : Bytes) : Option Surface :=
  (workspace.locate? .use path).bind workspace.tree.look

/-- What can be read at a path. -/
def contentAt? (workspace : Workspace) (path : Bytes) : Option Bytes :=
  (workspace.seenAt? path).bind Surface.content?

/-- There is a file at the path, and it may be read. -/
def Readable (workspace : Workspace) (path : Bytes) : Prop :=
  ∃ content, workspace.contentAt? path = some content

/-- Two workspaces have trees of one frame and the same current directory. -/
structure SameFrame (workspace other : Workspace) : Prop where
  current : other.current = workspace.current
  tree : workspace.tree.SameFrame other.tree

theorem locate?_eq_some_iff {workspace : Workspace} {purpose : Purpose}
    {path : Bytes} {location : Location} :
    workspace.locate? purpose path = some location ↔
      ∃ place, workspace.resolve purpose path = .ok place ∧
        place.location = location := by
  rw [locate?]
  cases workspace.resolve purpose path <;> simp

/-- A path leads to the same location whether a file is to be used or
written. -/
theorem locate?_use_of_write {workspace : Workspace} {path : Bytes}
    {location : Location}
    (leads : workspace.locate? .write path = some location) :
    workspace.locate? .use path = some location := by
  obtain ⟨place, resolved, same⟩ := locate?_eq_some_iff.mp leads
  exact locate?_eq_some_iff.mpr
    ⟨place, resolve_use resolved (by simp), same⟩

theorem look_of_resolve_occupied {workspace : Workspace} {purpose : Purpose}
    {path : Bytes} {location : Location}
    (resolved : workspace.resolve purpose path = .ok (.occupied location)) :
    workspace.tree.look location ≠ none :=
  (resolve_eq_ok_iff.mp resolved).2.look_of_occupied
    (Text.pieces_ne_nil Path.slash path)

theorem seenAt?_eq_find (workspace : Workspace) (path : Bytes) :
    workspace.seenAt? path =
      (workspace.find .use path).toOption.map Node.surface := by
  rw [seenAt?, locate?, find]
  cases resolved : workspace.resolve .use path with
  | error problem => rfl
  | ok place =>
      cases place with
      | vacant directory name =>
          exact (look_of_resolve_vacant resolved).2
      | occupied location =>
          simp only [Place.location, Option.bind_some, Node.look]
          cases workspace.tree.get? location <;> rfl

theorem pathExists_eq (workspace : Workspace) (path : Bytes) :
    workspace.pathExists path = (workspace.seenAt? path).isSome := by
  rw [seenAt?_eq_find, pathExists]
  cases workspace.find .use path <;> rfl

theorem isDirectory_iff_seenAt {workspace : Workspace} {path : Bytes} :
    workspace.isDirectory path = true ↔
      workspace.seenAt? path = some .directory := by
  rw [seenAt?_eq_find, isDirectory]
  cases workspace.find .use path with
  | error problem => simp [Except.toOption]
  | ok node => cases node <;> simp [Except.toOption, Node.surface]

theorem read_of_seenAt {workspace : Workspace} {path : Bytes}
    {file : StoredFile}
    (seen : workspace.seenAt? path = some (.file file)) :
    workspace.read path = file.read := by
  rw [seenAt?_eq_find] at seen
  rw [read]
  cases found : workspace.find .use path with
  | error problem =>
      rw [found] at seen
      cases seen
  | ok node =>
      rw [found] at seen
      cases node with
      | file stored =>
          cases seen
          rfl
      | directory entries => cases seen
      | link target => cases seen

theorem toOption_read (workspace : Workspace) (path : Bytes) :
    (workspace.read path).toOption = workspace.contentAt? path := by
  rw [contentAt?, seenAt?_eq_find, read]
  cases workspace.find .use path with
  | error problem => rfl
  | ok node => cases node <;> rfl

theorem read_eq_ok_iff {workspace : Workspace} {path : Bytes}
    {content : Bytes} :
    workspace.read path = .ok content ↔
      workspace.contentAt? path = some content := by
  rw [← toOption_read]
  cases workspace.read path <;> simp [Except.toOption]

theorem isFile_iff_seenAt {workspace : Workspace} {path : Bytes} :
    workspace.isFile path = true ↔
      ∃ file, workspace.seenAt? path = some (.file file) := by
  rw [seenAt?_eq_find, isFile]
  cases workspace.find .use path with
  | error problem => simp [Except.toOption]
  | ok node => cases node <;> simp [Except.toOption, Node.surface]

theorem contentAt?_eq_some_iff {workspace : Workspace} {path : Bytes}
    {content : Bytes} :
    workspace.contentAt? path = some content ↔
      ∃ file, workspace.seenAt? path = some (.file file) ∧
        file.isReadable = true ∧ file.content = content := by
  rw [contentAt?]
  cases workspace.seenAt? path with
  | none => simp
  | some found =>
      cases found with
      | file file =>
          cases readable : file.isReadable <;>
            simp [Surface.content?, StoredFile.read, readable,
              Except.toOption]
      | link | directory => simp [Surface.content?]

theorem readable_iff_seenAt {workspace : Workspace} {path : Bytes} :
    workspace.Readable path ↔
      ∃ file, workspace.seenAt? path = some (.file file) ∧
        file.isReadable = true := by
  simp only [Readable, contentAt?_eq_some_iff]
  constructor
  · rintro ⟨_, file, seen, readable, _⟩
    exact ⟨file, seen, readable⟩
  · rintro ⟨file, seen, readable⟩
    exact ⟨_, file, seen, readable, rfl⟩

theorem isFile_of_contentAt {workspace : Workspace} {path : Bytes}
    {content : Bytes} (readable : workspace.contentAt? path = some content) :
    workspace.isFile path = true := by
  rw [isFile_iff_seenAt]
  obtain ⟨found, seen, isContent⟩ := Option.bind_eq_some_iff.mp readable
  cases found with
  | file file => exact ⟨file, seen⟩
  | link | directory => cases isContent

namespace SameFrame

variable {workspace other third : Workspace}

theorem refl (workspace : Workspace) : workspace.SameFrame workspace :=
  ⟨rfl, .refl workspace.tree⟩

theorem symm (frame : workspace.SameFrame other) :
    other.SameFrame workspace :=
  ⟨frame.current.symm, frame.tree.symm⟩

theorem trans (first : workspace.SameFrame other)
    (second : other.SameFrame third) : workspace.SameFrame third :=
  ⟨second.current.trans first.current, first.tree.trans second.tree⟩

private theorem locate?_of_some (frame : workspace.SameFrame other)
    {purpose : Purpose} {path : Bytes} {location : Location}
    (leads : workspace.locate? purpose path = some location) :
    other.locate? purpose path = some location := by
  obtain ⟨place, resolved, same⟩ := locate?_eq_some_iff.mp leads
  obtain ⟨nonempty, route⟩ := resolve_eq_ok_iff.mp resolved
  obtain ⟨there, again, sameLocation⟩ := route.reframe frame.tree
  have start : other.start path = workspace.start path := by
    rw [Workspace.start, Workspace.start, frame.current]
  rw [← start] at again
  exact locate?_eq_some_iff.mpr
    ⟨there, resolve_eq_ok_iff.mpr ⟨nonempty, again⟩,
      sameLocation.trans same⟩

/-- In trees of one frame every path leads to one location. -/
theorem locate?_eq (frame : workspace.SameFrame other) (purpose : Purpose)
    (path : Bytes) :
    other.locate? purpose path = workspace.locate? purpose path := by
  ext location
  exact ⟨frame.symm.locate?_of_some, frame.locate?_of_some⟩

theorem seenAt?_eq (frame : workspace.SameFrame other) {path : Bytes}
    (kept : ∀ location, workspace.locate? .use path = some location →
      other.tree.look location = workspace.tree.look location) :
    other.seenAt? path = workspace.seenAt? path := by
  rw [seenAt?, seenAt?, frame.locate?_eq]
  cases leads : workspace.locate? .use path with
  | none => rfl
  | some location => exact kept location leads

theorem isDirectory_eq (frame : workspace.SameFrame other) (path : Bytes) :
    other.isDirectory path = workspace.isDirectory path := by
  rw [Bool.eq_iff_iff, isDirectory_iff_seenAt, isDirectory_iff_seenAt,
    seenAt?, seenAt?, frame.locate?_eq]
  cases workspace.locate? .use path with
  | none => simp
  | some location => exact (frame.tree.directory location).symm

end SameFrame

end Workspace

end AccessAudit
