import AccessAudit.FileSystem.Tree

/-!
# The surface of a directory tree

The surface of a node is what can be told of it without looking below it.  A
tree is seen through the surfaces at all its locations, and `look_set` says
that putting a node without children in place changes the surface at that one
location only.
-/

namespace AccessAudit

/-- What a node is, without what lies below it. -/
inductive Surface
  | file (file : StoredFile)
  | link (target : Bytes)
  | directory
deriving DecidableEq, Repr

namespace Node

def surface : Node → Surface
  | .file stored => .file stored
  | .link target => .link target
  | .directory _ => .directory

/-- The surface of the node at a location. -/
def look (tree : Node) (location : Location) : Option Surface :=
  (tree.get? location).map surface

@[simp]
theorem look_nil (tree : Node) : tree.look [] = some tree.surface := rfl

theorem look_cons (tree : Node) (name : Bytes) (rest : Location) :
    tree.look (name :: rest) =
      (tree.entries.lookup name).bind (·.look rest) := by
  rw [look, get?]
  cases tree.entries.lookup name <;> rfl

theorem look_eq_file_iff {tree : Node} {location : Location}
    {file : StoredFile} :
    tree.look location = some (.file file) ↔
      tree.get? location = some (.file file) := by
  unfold look
  cases tree.get? location with
  | none => simp
  | some node => cases node <;> simp [surface]

theorem look_eq_directory_iff {tree : Node} {location : Location} :
    tree.look location = some .directory ↔
      ∃ entries, tree.get? location = some (.directory entries) := by
  unfold look
  cases tree.get? location with
  | none => simp
  | some node => cases node <;> simp [surface]

theorem get?_append (tree : Node) (first second : Location) :
    tree.get? (first ++ second) =
      (tree.get? first).bind (·.get? second) := by
  induction first generalizing tree with
  | nil => rfl
  | cons name rest ih =>
      rw [List.cons_append, get?, get?]
      cases tree.entries.lookup name with
      | none => rfl
      | some child => exact ih child

/-- Below a directory the surface is that of the entry. -/
theorem look_append_singleton {tree : Node} {location : Location}
    {entries : List (Bytes × Node)}
    (found : tree.get? location = some (.directory entries)) (name : Bytes) :
    tree.look (location ++ [name]) = (entries.lookup name).map surface := by
  have below := get?_append tree location [name]
  rw [found, Option.bind_some] at below
  rw [look, below]
  simp only [get?, Node.entries]
  cases entries.lookup name <;> rfl

/-- Only directories have something below them. -/
theorem look_append_eq_none {tree : Node} {location : Location}
    (notDirectory : tree.look location ≠ some .directory)
    {rest : Location} (below : rest ≠ []) :
    tree.look (location ++ rest) = none := by
  obtain ⟨name, others, rfl⟩ := List.exists_cons_of_ne_nil below
  rw [look, get?_append]
  cases found : tree.get? location with
  | none => rfl
  | some node =>
      cases node with
      | file file => rfl
      | link target => rfl
      | directory entries =>
          exact absurd (look_eq_directory_iff.mpr ⟨entries, found⟩)
            notDirectory

/-- Whatever is in a tree is in a directory of it, unless it is its top. -/
theorem look_dropLast {tree : Node} {location : Location} {found : Surface}
    (seen : tree.look location = some found) (below : location ≠ []) :
    tree.look location.dropLast = some .directory := by
  apply Decidable.byContradiction
  intro notDirectory
  have nothing := look_append_eq_none notDirectory
    (List.cons_ne_nil (location.getLast below) [])
  rw [List.dropLast_concat_getLast below, seen] at nothing
  cases nothing

theorem lookup_alterEntry {change : Option Node → Option Node}
    (keeps : ∀ node, change (some node) ≠ none) (name other : Bytes)
    (entries : List (Bytes × Node)) :
    (alterEntry change name entries).lookup other =
      if other = name then change (entries.lookup name)
      else entries.lookup other := by
  induction entries with
  | nil =>
      rw [alterEntry]
      by_cases same : other = name
      · cases made : change none <;> simp [same, made]
      · have different : (other == name) = false := by simpa using same
        cases made : change none <;> simp [same, different, List.lookup_cons]
  | cons entry rest ih =>
      obtain ⟨key, node⟩ := entry
      rw [alterEntry]
      by_cases here : key = name
      · subst key
        obtain ⟨changed, made⟩ := Option.ne_none_iff_exists'.mp (keeps node)
        by_cases same : other = name
        · simp [same, made]
        · have different : (other == name) = false := by simpa using same
          simp [made, same, different, List.lookup_cons]
      · have apart : (name == key) = false := by
          simpa using Ne.symm here
        rw [if_neg here, List.lookup_cons, List.lookup_cons, ih]
        by_cases same : other = key
        · subst other
          simp [here]
        · have different : (other == key) = false := by simpa using same
          simp [different, apart, List.lookup_cons]

theorem look_of_entries_nil {node : Node} (leaf : node.entries = [])
    {location : Location} (below : location ≠ []) :
    node.look location = none := by
  obtain ⟨name, rest, rfl⟩ := List.exists_cons_of_ne_nil below
  simp [look_cons, leaf]

private theorem eq_directory_of_look_cons {tree : Node} {name : Bytes}
    {rest : Location} {found : Surface}
    (seen : tree.look (name :: rest) = some found) :
    ∃ entries child, tree = .directory entries ∧
      entries.lookup name = some child ∧ child.look rest = some found := by
  rw [look_cons, Option.bind_eq_some_iff] at seen
  obtain ⟨child, isEntry, below⟩ := seen
  cases tree with
  | file file => simp [entries] at isEntry
  | link target => simp [entries] at isEntry
  | directory entries => exact ⟨entries, child, rfl, isEntry, below⟩

private theorem eq_directory_of_surface {tree : Node}
    (seen : tree.surface = .directory) :
    ∃ entries, tree = .directory entries := by
  cases tree with
  | file file => cases seen
  | link target => cases seen
  | directory entries => exact ⟨entries, rfl⟩

/-- Putting a node without children at a place in a directory where no
directory is changes the surface at this one location. -/
theorem look_set {tree new : Node} {location : Location}
    (inDirectory : location ≠ [] →
      tree.look location.dropLast = some .directory)
    (oldLeaf : tree.look location ≠ some .directory)
    (newLeaf : new.entries = []) (other : Location) :
    (tree.set location (some new)).look other =
      if other = location then some new.surface else tree.look other := by
  induction location generalizing tree other with
  | nil =>
      have replaced : tree.set [] (some new) = new := by simp [set]
      rw [replaced]
      by_cases same : other = []
      · simp [same]
      · rw [if_neg same, look_of_entries_nil newLeaf same,
          ← List.nil_append other, look_append_eq_none oldLeaf same]
  | cons name rest ih =>
      cases rest with
      | nil =>
          have isDirectory : tree.surface = .directory := by
            simpa using inDirectory (by simp)
          obtain ⟨entries, rfl⟩ := eq_directory_of_surface isDirectory
          have replaced : (directory entries).set [name] (some new) =
              .directory (alterEntry (fun _ => some new) name entries) := by
            simp [set]
          rw [replaced]
          cases other with
          | nil => simp [surface]
          | cons first others =>
              rw [look_cons, look_cons]
              simp only [Node.entries]
              rw [lookup_alterEntry (by simp)]
              by_cases same : first = name
              · subst first
                cases others with
                | nil => simp
                | cons second further =>
                    have old := look_append_eq_none oldLeaf
                      (List.cons_ne_nil second further)
                    rw [List.singleton_append, look_cons] at old
                    simp only [Node.entries] at old
                    simp [look_of_entries_nil newLeaf, old]
              · simp [same]
      | cons second further =>
          have above : tree.look (name :: (second :: further).dropLast) =
              some .directory := by
            simpa using inDirectory (by simp)
          obtain ⟨entries, child, rfl, isEntry, childAbove⟩ :=
            eq_directory_of_look_cons above
          have childLeaf : child.look (second :: further) ≠
              some .directory := by
            simpa [look_cons, Node.entries, isEntry] using oldLeaf
          have replaced : (directory entries).set
              (name :: second :: further) (some new) =
                .directory (alterEntry
                  (·.map (·.set (second :: further) (some new)))
                  name entries) := by
            simp [set]
          rw [replaced]
          cases other with
          | nil => simp [surface]
          | cons first others =>
              rw [look_cons, look_cons]
              simp only [Node.entries]
              rw [lookup_alterEntry (by simp)]
              by_cases same : first = name
              · subst first
                simpa [isEntry] using
                  ih (fun _ => childAbove) childLeaf others
              · simp [same]

end Node

end AccessAudit
