import AccessAudit.FileSystem.Tree
import AccessAudit.Proofs.FileSystem.Surface
import AccessAudit.Proofs.Path.Spelling

/-!
# Trees that a file system can hold

In a well-formed tree every entry of a directory has a proper name, and no
two entries of one directory have the same.
-/

namespace AccessAudit

namespace Node

mutual

theorem induct {motive : Node → Prop}
    (file : ∀ stored, motive (.file stored))
    (link : ∀ target, motive (.link target))
    (directory : ∀ entries, (∀ entry ∈ entries, motive entry.2) →
      motive (.directory entries)) :
    ∀ node, motive node
  | .file stored => file stored
  | .link target => link target
  | .directory entries =>
      directory entries (inductEntries file link directory entries)

theorem inductEntries {motive : Node → Prop}
    (file : ∀ stored, motive (.file stored))
    (link : ∀ target, motive (.link target))
    (directory : ∀ entries, (∀ entry ∈ entries, motive entry.2) →
      motive (.directory entries)) :
    ∀ entries : List (Bytes × Node), ∀ entry ∈ entries, motive entry.2
  | [] => by simp
  | (name, node) :: rest => by
      intro entry member
      rcases List.mem_cons.mp member with rfl | later
      · exact induct file link directory node
      · exact inductEntries file link directory rest entry later

end

inductive WellFormed : Node → Prop
  | file (file : StoredFile) : WellFormed (.file file)
  | link (target : Bytes) : WellFormed (.link target)
  | directory {entries : List (Bytes × Node)}
      (proper : ∀ entry ∈ entries, Path.ProperName entry.1)
      (distinct : (entries.map (·.1)).Nodup)
      (below : ∀ entry ∈ entries, WellFormed entry.2) :
      WellFormed (.directory entries)

mutual

/-- Compute whether a tree is well-formed. -/
def checkNames : Node → Bool
  | .file _ | .link _ => true
  | .directory entries =>
      decide (entries.map (·.1)).Nodup && checkEntries entries

def checkEntries : List (Bytes × Node) → Bool
  | [] => true
  | (name, node) :: rest =>
      decide (Path.ProperName name) && node.checkNames && checkEntries rest

end

theorem checkEntries_iff {entries : List (Bytes × Node)} :
    checkEntries entries = true ↔
      ∀ entry ∈ entries,
        Path.ProperName entry.1 ∧ entry.2.checkNames = true := by
  induction entries with
  | nil => simp [checkEntries]
  | cons entry rest ih =>
      rw [checkEntries, Bool.and_eq_true, Bool.and_eq_true,
        decide_eq_true_eq, ih, List.forall_mem_cons]

theorem checkNames_iff {node : Node} :
    node.checkNames = true ↔ node.WellFormed := by
  induction node using Node.induct with
  | file file => exact iff_of_true rfl (.file file)
  | link target => exact iff_of_true rfl (.link target)
  | directory entries ih =>
      rw [checkNames, Bool.and_eq_true, decide_eq_true_eq, checkEntries_iff]
      constructor
      · rintro ⟨distinct, checked⟩
        apply WellFormed.directory _ distinct
        · intro entry member
          exact (ih entry member).mp (checked entry member).2
        · intro entry member
          exact (checked entry member).1
      · intro wellFormed
        cases wellFormed with
        | directory proper distinct below =>
            refine ⟨distinct, fun entry member => ?_⟩
            exact ⟨proper entry member,
              (ih entry member).mpr (below entry member)⟩

instance (node : Node) : Decidable node.WellFormed :=
  decidable_of_iff _ checkNames_iff

/-- Among entries of different names, every one is found by its name. -/
theorem lookup_of_mem {α β : Type} [BEq α] [LawfulBEq α]
    {entries : List (α × β)} (distinct : (entries.map (·.1)).Nodup)
    {entry : α × β} (member : entry ∈ entries) :
    entries.lookup entry.1 = some entry.2 := by
  obtain ⟨before, after, rfl⟩ := List.append_of_mem member
  rw [List.lookup_eq_some_iff]
  refine ⟨before, after, rfl, ?_⟩
  intro other earlier
  rw [List.map_append, List.nodup_append] at distinct
  have different := distinct.2.2 other.1 (List.mem_map_of_mem earlier)
    entry.1 (by simp)
  simpa using different.symm

theorem mem_of_lookup {entries : List (Bytes × Node)} {name : Bytes}
    {node : Node} (found : entries.lookup name = some node) :
    (name, node) ∈ entries := by
  obtain ⟨before, after, rfl, _⟩ := List.lookup_eq_some_iff.mp found
  simp

theorem WellFormed.get? {tree node : Node} (wellFormed : tree.WellFormed)
    {location : Location} (found : tree.get? location = some node) :
    node.WellFormed := by
  induction location generalizing tree with
  | nil =>
      cases found
      exact wellFormed
  | cons name rest ih =>
      rw [Node.get?] at found
      split at found
      · next child isEntry =>
          cases wellFormed with
          | file file => cases isEntry
          | link target => cases isEntry
          | directory _ _ below =>
              exact ih (below _ (mem_of_lookup isEntry)) found
      · cases found

end Node

end AccessAudit
