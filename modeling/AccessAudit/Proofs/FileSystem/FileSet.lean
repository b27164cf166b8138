import Mathlib.Data.List.Infix
import AccessAudit.Proofs.FileSystem.Descent

/-!
# Files laid out in a tree

A set of files has plain paths that do not run through each other.  Laid out
at a location, it is all that is below that location, together with the
directories above the files.  Every set of files has such a layout.
-/

namespace AccessAudit

/-- The directories on the way down to a path. -/
def Path.directoriesAbove (path : Text) : List Text :=
  ((Text.pieces '/' path).inits.filter fun front =>
    front ≠ [] ∧ front ≠ Text.pieces '/' path).map (Text.joinWith "/")

theorem Path.mem_directoriesAbove_iff {path directory : Text} :
    directory ∈ directoriesAbove path ↔
      Text.pieces slash directory <+: Text.pieces slash path ∧
        Text.pieces slash directory ≠ Text.pieces slash path := by
  rw [pieces_encode, pieces_encode,
    List.prefix_map_iff_of_injective Utf8.encode_injective,
    (List.map_injective_iff.mpr Utf8.encode_injective).ne_iff]
  simp only [directoriesAbove, List.mem_map, List.mem_filter,
    List.mem_inits, decide_eq_true_eq]
  constructor
  · rintro ⟨front, ⟨start, nonempty, shorter⟩, rfl⟩
    have pieces : Text.pieces '/' (Text.joinWith "/" front) = front :=
      Text.pieces_joinWith nonempty fun part member =>
        Text.not_mem_of_mem_pieces (start.subset member)
    rw [pieces]
    exact ⟨start, shorter⟩
  · rintro ⟨start, shorter⟩
    exact ⟨_, ⟨start, Text.pieces_ne_nil '/' directory, shorter⟩,
      Text.joinWith_pieces '/' directory⟩

theorem Path.eq_of_pieces_encode_eq {path other : Text}
    (same : Text.pieces slash path = Text.pieces slash other) :
    path = other :=
  Utf8.encode_injective (eq_of_pieces_eq same)

/-- Files with their texts.  No path leads through another file. -/
structure FileSet where
  files : List (Text × Text)
  plain : ∀ file ∈ files, Path.Plain file.1
  distinct : (files.map (·.1)).Nodup
  apart : ∀ file ∈ files, ∀ other ∈ files,
    Text.pieces Path.slash file.1 <+: Text.pieces Path.slash other.1 →
      file.1 = other.1

namespace FileSet

/-- The directories above the files. -/
def directories (set : FileSet) : List Text :=
  set.files.flatMap fun file => Path.directoriesAbove file.1

/-- Below the location there are the files with the directories above them,
and nothing else. -/
structure LaidOut (set : FileSet) (workspace : Workspace)
    (location : Location) : Prop where
  file : ∀ file ∈ set.files, ∃ stored,
    workspace.tree.look (location ++ Text.pieces Path.slash file.1) =
        some (.file stored) ∧
      stored.read = .ok (Utf8.encode file.2)
  only : ∀ names : Location, names ≠ [] →
    (∀ name ∈ names, Path.ProperName name) →
    workspace.tree.look (location ++ names) ≠ none →
      ∃ file ∈ set.files, names <+: Text.pieces Path.slash file.1

variable {set : FileSet} {path : Text}

theorem mem_directories_iff :
    path ∈ set.directories ↔
      ∃ file ∈ set.files,
        Text.pieces Path.slash path <+: Text.pieces Path.slash file.1 ∧
          Text.pieces Path.slash path ≠ Text.pieces Path.slash file.1 := by
  simp only [directories, List.mem_flatMap, Path.mem_directoriesAbove_iff]

namespace LaidOut

variable {workspace : Workspace} {location : Location}
  (laidOut : set.LaidOut workspace location)

include laidOut

theorem look_of_directory (member : path ∈ set.directories) :
    workspace.tree.look (location ++ Text.pieces Path.slash path) =
      some .directory := by
  obtain ⟨file, isFile, ⟨rest, whole⟩, shorter⟩ :=
    mem_directories_iff.mp member
  obtain ⟨stored, seen, _⟩ := laidOut.file file isFile
  rw [← whole, ← List.append_assoc] at seen
  apply Node.look_of_look_append seen
  rintro rfl
  rw [List.append_nil] at whole
  exact shorter whole

/-- Whatever is below the location is a file of the set or a directory above
one. -/
theorem file_or_directory (plain : Path.Plain path)
    (seen : workspace.tree.look
      (location ++ Text.pieces Path.slash path) ≠ none) :
    (∃ file ∈ set.files, file.1 = path) ∨ path ∈ set.directories := by
  obtain ⟨file, isFile, start⟩ :=
    laidOut.only _ (Text.pieces_ne_nil Path.slash _) plain seen
  by_cases same : Text.pieces Path.slash path = Text.pieces Path.slash file.1
  · exact Or.inl ⟨file, isFile, (Path.eq_of_pieces_encode_eq same).symm⟩
  · exact Or.inr (mem_directories_iff.mpr ⟨file, isFile, start, same⟩)

theorem clearBelow {names : Location}
    (proper : ∀ name ∈ names, Path.ProperName name) :
    workspace.tree.ClearBelow location names := by
  intro front nonempty start target isLink
  obtain ⟨file, isFile, rest, whole⟩ := laidOut.only front nonempty
    (fun name member => proper name (start.subset member)) (by simp [isLink])
  obtain ⟨stored, seen, _⟩ := laidOut.file file isFile
  rw [← whole, ← List.append_assoc] at seen
  by_cases final : rest = []
  · rw [final, List.append_nil, isLink] at seen
    cases seen
  · have directory := Node.look_of_look_append seen final
    rw [isLink] at directory
    cases directory

end LaidOut

end FileSet

/-! ## Laying files out -/

namespace Node

/-- Put a file at a location, with all directories above it. -/
def withFile (stored : StoredFile) : Location → Node → Node
  | [], _ => .file stored
  | name :: rest, node =>
      .directory (alterEntry
        (fun child => some
          (withFile stored rest (child.getD emptyDirectory)))
        name node.entries)

/-- A file that is put in a tree hides what is above and below it, and leaves
the rest as it was. -/
theorem look_withFile (stored : StoredFile) (location other : Location)
    (node : Node) :
    (withFile stored location node).look other =
      if other = location then some (.file stored)
      else if other <+: location then some .directory
      else if location <+: other then none
      else node.look other := by
  induction location generalizing node other with
  | nil =>
      cases other with
      | nil => rfl
      | cons first others =>
          rw [withFile, look_of_entries_nil rfl (List.cons_ne_nil _ _)]
          simp
  | cons name rest ih =>
      cases other with
      | nil => simp [withFile, surface]
      | cons first others =>
          have entries : ∀ entries, (directory entries).entries = entries :=
            fun _ => rfl
          rw [withFile, look_cons, entries, lookup_alterEntry (by simp),
            look_cons]
          by_cases same : first = name
          · subst same
            simp only [if_true, Option.bind_some, ih, List.cons.injEq,
              true_and, List.cons_prefix_cons]
            by_cases above : others <+: rest
            · simp [above]
            · have below : others ≠ [] := by
                rintro rfl
                exact above List.nil_prefix
              have nothing : emptyDirectory.look others = none :=
                look_of_entries_nil rfl below
              cases node.entries.lookup first with
              | none => simp [above, nothing]
              | some child => simp [above]
          · simp [same, Ne.symm same]

/-- A tree of the given files alone, which can all be read. -/
def ofFiles (files : List (Text × Text)) : Node :=
  files.foldr
    (fun file => withFile { content := Utf8.encode file.2 }
      (Text.pieces Path.slash file.1))
    emptyDirectory

end Node

namespace FileSet

/-- A tree of files that are apart has each of them, and nothing that is not
one of them or above one. -/
theorem look_ofFiles {files : List (Text × Text)}
    (distinct : (files.map (·.1)).Nodup)
    (apart : ∀ file ∈ files, ∀ other ∈ files,
      Text.pieces Path.slash file.1 <+: Text.pieces Path.slash other.1 →
        file.1 = other.1) :
    (∀ file ∈ files, (Node.ofFiles files).look (Text.pieces Path.slash file.1) =
      some (.file { content := Utf8.encode file.2 })) ∧
    ∀ names, names ≠ [] → (Node.ofFiles files).look names ≠ none →
      ∃ file ∈ files, names <+: Text.pieces Path.slash file.1 := by
  induction files with
  | nil =>
      refine ⟨by simp, fun names nonempty seen => ?_⟩
      exact absurd (Node.look_of_entries_nil rfl nonempty) seen
  | cons file rest ih =>
      rw [List.map_cons, List.nodup_cons] at distinct
      obtain ⟨fresh, distinct⟩ := distinct
      obtain ⟨held, only⟩ := ih distinct fun first isFirst second isSecond =>
        apart first (List.mem_cons_of_mem file isFirst) second
          (List.mem_cons_of_mem file isSecond)
      have look : ∀ names, (Node.ofFiles (file :: rest)).look names = _ :=
        fun names => Node.look_withFile _ _ names (Node.ofFiles rest)
      constructor
      · intro other member
        rw [look]
        rcases List.mem_cons.mp member with rfl | later
        · rw [if_pos rfl]
        · have different : file.1 ≠ other.1 := by
            intro same
            exact fresh (same ▸ List.mem_map_of_mem later)
          have notAbove := mt (apart other member file List.mem_cons_self)
            (Ne.symm different)
          have notBelow := mt (apart file List.mem_cons_self other member)
            different
          have notSame :
              Text.pieces Path.slash other.1 ≠
                Text.pieces Path.slash file.1 :=
            fun same => different (Path.eq_of_pieces_encode_eq same).symm
          rw [if_neg notSame, if_neg notAbove, if_neg notBelow]
          exact held other later
      · intro names nonempty seen
        rw [look] at seen
        by_cases above : names <+: Text.pieces Path.slash file.1
        · exact ⟨file, List.mem_cons_self, above⟩
        · have notSame : names ≠ Text.pieces Path.slash file.1 := by
            rintro rfl
            exact above (List.prefix_refl _)
          rw [if_neg notSame, if_neg above] at seen
          split at seen
          · exact absurd rfl seen
          · obtain ⟨other, isFile, start⟩ := only names nonempty seen
            exact ⟨other, List.mem_cons_of_mem file isFile, start⟩

/-- Every set of files can be laid out. -/
theorem laidOut_ofFiles (set : FileSet) :
    set.LaidOut ⟨Node.ofFiles set.files, [], none⟩ [] := by
  obtain ⟨held, only⟩ := look_ofFiles set.distinct set.apart
  exact ⟨fun file member => ⟨_, held file member, rfl⟩,
    fun names nonempty _ => only names nonempty⟩

end FileSet

end AccessAudit
