import AccessAudit.Proofs.FileSystem.WellFormed
import AccessAudit.Scan

/-!
# What a walk through a tree finds

A walk lists directory after directory in the order of names.  Ignore rules
leave out some of the paths, and in a well-formed tree every path that is
found is the top with the names on the way down to a regular file.
-/

namespace AccessAudit

namespace Node

theorem walkEntries_eq (path : Bytes) (entries : List (Bytes × Node)) :
    walkEntries path entries = entries.map fun entry =>
      (entry.1, entry.2.walk (Path.join path entry.1)) := by
  induction entries with
  | nil => rfl
  | cons entry rest ih => rw [walkEntries, ih, List.map_cons]

theorem walkKeptEntries_eq (read : Bytes → Option Bytes) (user : UserRules)
    (levels : List IgnoreLevel) (path : Bytes)
    (entries : List (Bytes × Node)) :
    walkKeptEntries read user levels path entries = entries.map fun entry =>
      (entry.1,
        if IgnoreLevel.isIgnored user levels (Path.join path entry.1)
            entry.2.isDirectory then []
        else entry.2.walkKept read user levels (Path.join path entry.1)) := by
  induction entries with
  | nil => rfl
  | cons entry rest ih => rw [walkKeptEntries, ih, List.map_cons]

/-- The order of entries does not depend on what stands beside the names. -/
theorem byName_map {α β : Type} (change : Bytes × α → β)
    (listing : List (Bytes × α)) :
    byName (listing.map fun entry => (entry.1, change entry)) =
      (byName listing).map fun entry => (entry.1, change entry) := by
  rw [byName, byName, List.map_mergeSort]
  intro first _ second _
  rfl

theorem mem_byName {α : Type} {listing : List (Bytes × α)}
    {entry : Bytes × α} : entry ∈ byName listing ↔ entry ∈ listing :=
  List.mem_mergeSort

theorem walk_directory (path : Bytes) (entries : List (Bytes × Node)) :
    (directory entries).walk path = (byName entries).flatMap fun entry =>
      entry.2.walk (Path.join path entry.1) := by
  rw [walk, walkEntries_eq, byName_map, List.flatMap_map]

theorem walkKept_directory (read : Bytes → Option Bytes) (user : UserRules)
    (levels : List IgnoreLevel) (path : Bytes)
    (entries : List (Bytes × Node)) :
    (directory entries).walkKept read user levels path =
      (byName entries).flatMap fun entry =>
        if IgnoreLevel.isIgnored user (.ofDirectory read path :: levels)
            (Path.join path entry.1) entry.2.isDirectory then []
        else
          entry.2.walkKept read user (.ofDirectory read path :: levels)
            (Path.join path entry.1) := by
  simp only [walkKept]
  rw [walkKeptEntries_eq, byName_map, List.flatMap_map]

theorem flatMap_sublist {α β : Type} {fewer more : α → List β}
    {listing : List α}
    (parts : ∀ entry ∈ listing, (fewer entry).Sublist (more entry)) :
    (listing.flatMap fewer).Sublist (listing.flatMap more) := by
  induction listing with
  | nil => exact List.Sublist.refl []
  | cons entry rest ih =>
      rw [List.flatMap_cons, List.flatMap_cons]
      apply List.Sublist.append
      · exact parts entry List.mem_cons_self
      · apply ih
        intro other member
        exact parts other (List.mem_cons_of_mem entry member)

/-- Ignore rules only leave paths out. -/
theorem walkKept_sublist_walk (read : Bytes → Option Bytes)
    (user : UserRules) (node : Node) :
    ∀ levels path,
      (node.walkKept read user levels path).Sublist (node.walk path) := by
  induction node using Node.induct with
  | file content =>
      intro levels path
      exact List.Sublist.refl [path]
  | link target =>
      intro levels path
      exact List.Sublist.refl []
  | directory entries ih =>
      intro levels path
      rw [walkKept_directory, walk_directory]
      apply flatMap_sublist
      intro entry member
      split
      · exact List.nil_sublist _
      · exact ih entry (mem_byName.mp member) _ _

/-- A walk through a well-formed tree finds regular files by the names on the
way down to them. -/
theorem WellFormed.exists_of_mem_walk {node : Node}
    (wellFormed : node.WellFormed) {path file : Bytes}
    (found : file ∈ node.walk path) :
    ∃ names content, node.get? names = some (.file content) ∧
      (∀ name ∈ names, Path.ProperName name) ∧
      file = names.foldl Path.join path := by
  induction wellFormed generalizing path with
  | file content =>
      rw [walk, List.mem_singleton] at found
      exact ⟨[], content, rfl, by simp, found⟩
  | link target => simp [walk] at found
  | @directory entries proper distinct _ ih =>
      rw [walk_directory, List.mem_flatMap] at found
      obtain ⟨entry, member, below⟩ := found
      rw [mem_byName] at member
      obtain ⟨names, content, isFile, properNames, spelled⟩ :=
        ih entry member below
      refine ⟨entry.1 :: names, content, ?_, ?_, spelled⟩
      · simp only [Node.get?, Node.entries, lookup_of_mem distinct member]
        exact isFile
      · intro name isName
        rcases List.mem_cons.mp isName with rfl | later
        · exact proper entry member
        · exact properNames name later

end Node

end AccessAudit
