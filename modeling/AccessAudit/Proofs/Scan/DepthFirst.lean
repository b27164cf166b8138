import Mathlib
import AccessAudit.Proofs.Path.Merging
import AccessAudit.Proofs.Scan.IgnoreFiles

/-!
# The files of a plain scan

Without ignore rules a scan is told by the tree alone.  It visits the regular
files to which names lead down from its root, and a way down never leads
through a link.  The files come in depth-first order, with the entries of
every directory in the order of the bytes of their names.
-/

namespace AccessAudit

/-- Where the two ways down part, the first one takes the name whose bytes
come first. -/
inductive Location.Precedes : Location → Location → Prop
  | here {name other : Bytes} (before : name < other)
      (rest more : Location) : Precedes (name :: rest) (other :: more)
  | deeper (name : Bytes) {rest more : Location}
      (later : Precedes rest more) :
      Precedes (name :: rest) (name :: more)

theorem Location.Precedes.irrefl (location : Location) :
    ¬Precedes location location := by
  intro precedes
  induction location with
  | nil => cases precedes
  | cons name rest ih =>
      cases precedes with
      | here before => exact List.lt_irrefl _ before
      | deeper _ later => exact ih later

namespace Node

/-- The locations of the regular files below a node, in depth-first order. -/
structure Visits (node : Node) (locations : List Location) : Prop where
  mem_iff : ∀ location, location ∈ locations ↔
    ∃ file, node.get? location = some (.file file)
  order : locations.Pairwise Location.Precedes

theorem Visits.nodup {node : Node} {locations : List Location}
    (visits : node.Visits locations) : locations.Nodup := by
  apply visits.order.imp
  rintro location _ precedes rfl
  exact Location.Precedes.irrefl location precedes

/-- Distinct names are sorted by their bytes. -/
theorem pairwise_byName {α : Type} {listing : List (Bytes × α)}
    (distinct : (listing.map (·.1)).Nodup) :
    (byName listing).Pairwise fun entry other => entry.1 < other.1 := by
  have sorted : (byName listing).Pairwise fun entry other =>
      (!(other.1 < entry.1 : Bool)) = true := by
    apply List.pairwise_mergeSort
    · intro first second third low high
      simp only [Bool.not_eq_true', decide_eq_false_iff_not, List.not_lt]
        at low high ⊢
      exact List.le_trans low high
    · intro first second
      simp only [Bool.or_eq_true, Bool.not_eq_true', decide_eq_false_iff_not,
        List.not_lt]
      exact List.le_total first.1 second.1
  have different : (byName listing).Pairwise fun entry other =>
      entry.1 ≠ other.1 := by
    have perm := (List.mergeSort_perm listing
      fun entry other => !(other.1 < entry.1)).map (·.1)
    exact List.pairwise_map.mp (perm.nodup_iff.mpr distinct)
  apply (sorted.and different).imp
  rintro entry other ⟨notAfter, differs⟩
  simp only [Bool.not_eq_true', decide_eq_false_iff_not, List.not_lt]
    at notAfter
  rcases List.le_iff_lt_or_eq.mp notAfter with less | same
  · exact less
  · exact absurd same differs

theorem get?_directory_cons {entries : List (Bytes × Node)}
    (distinct : (entries.map (·.1)).Nodup) {name : Bytes} {rest : Location}
    {found : Node} :
    (directory entries).get? (name :: rest) = some found ↔
      ∃ entry ∈ entries, entry.1 = name ∧
        entry.2.get? rest = some found := by
  simp only [Node.get?, Node.entries]
  constructor
  · intro isThere
    split at isThere
    · next child isEntry =>
        exact ⟨(name, child), mem_of_lookup isEntry, rfl, isThere⟩
    · cases isThere
  · rintro ⟨entry, member, rfl, isThere⟩
    rw [lookup_of_mem distinct member]
    exact isThere

/-- A walk visits every regular file once, in depth-first order. -/
theorem WellFormed.exists_visits {node : Node}
    (wellFormed : node.WellFormed) :
    ∃ locations, node.Visits locations ∧
      ∀ path, node.walk path = locations.map (·.foldl Path.join path) := by
  induction wellFormed with
  | file content =>
      refine ⟨[[]], ⟨?_, List.pairwise_singleton _ _⟩, fun path => rfl⟩
      intro location
      cases location with
      | nil => simp [Node.get?]
      | cons name rest => simp [Node.get?, Node.entries]
  | link target =>
      refine ⟨[], ⟨?_, .nil⟩, fun path => rfl⟩
      intro location
      cases location with
      | nil => simp [Node.get?]
      | cons name rest => simp [Node.get?, Node.entries]
  | @directory entries proper distinct _ ih =>
      choose! below visits spelled using ih
      refine ⟨(byName entries).flatMap fun entry =>
        (below entry).map (entry.1 :: ·), ⟨?_, ?_⟩, ?_⟩
      · intro location
        simp only [List.mem_flatMap, List.mem_map, mem_byName]
        constructor
        · rintro ⟨entry, member, rest, inside, rfl⟩
          obtain ⟨content, isFile⟩ :=
            ((visits entry member).mem_iff rest).mp inside
          exact ⟨content, (get?_directory_cons distinct).mpr
            ⟨entry, member, rfl, isFile⟩⟩
        · rintro ⟨content, isFile⟩
          cases location with
          | nil => cases isFile
          | cons name rest =>
              obtain ⟨entry, member, rfl, isThere⟩ :=
                (get?_directory_cons distinct).mp isFile
              exact ⟨entry, member, rest,
                ((visits entry member).mem_iff rest).mpr
                  ⟨content, isThere⟩, rfl⟩
      · rw [List.pairwise_flatMap]
        constructor
        · intro entry member
          rw [List.pairwise_map]
          exact (visits entry (mem_byName.mp member)).order.imp
            (Location.Precedes.deeper entry.1)
        · apply (pairwise_byName distinct).imp
          intro entry other before location isBelow later isLater
          obtain ⟨rest, _, rfl⟩ := List.mem_map.mp isBelow
          obtain ⟨more, _, rfl⟩ := List.mem_map.mp isLater
          exact .here before rest more
      · intro path
        rw [walk_directory, List.map_flatMap, List.flatMap_def,
          List.flatMap_def]
        apply congrArg List.flatten
        apply List.map_congr_left
        intro entry member
        rw [spelled entry (mem_byName.mp member), List.map_map]
        rfl

theorem WellFormed.proper_of_get? {node found : Node}
    (wellFormed : node.WellFormed) {location : Location}
    (isThere : node.get? location = some found) :
    ∀ name ∈ location, Path.ProperName name := by
  induction location generalizing node with
  | nil => simp
  | cons name rest ih =>
      cases wellFormed with
      | file content => cases isThere
      | link target => cases isThere
      | directory proper distinct below =>
          obtain ⟨entry, member, rfl, later⟩ :=
            (get?_directory_cons distinct).mp isThere
          exact List.forall_mem_cons.mpr
            ⟨proper entry member, ih (below entry member) later⟩

/-- Different locations are spelled differently. -/
theorem Visits.nodup_spelled {node : Node} {locations : List Location}
    (visits : node.Visits locations) (wellFormed : node.WellFormed)
    (path : Bytes) : (locations.map (·.foldl Path.join path)).Nodup := by
  apply visits.nodup.map_on
  intro names visited others otherVisited same
  have proper : ∀ location ∈ locations,
      ∀ name ∈ location, Path.ProperName name := by
    intro location member
    obtain ⟨content, isFile⟩ := (visits.mem_iff location).mp member
    exact wellFormed.proper_of_get? isFile
  have segments := congrArg Path.significant same
  rw [Path.significant_foldl_join (proper names visited),
    Path.significant_foldl_join (proper others otherVisited)] at segments
  exact List.append_cancel_left segments

end Node

/-- A plain scan fails exactly if its root leads to nothing.  Of a directory
it lists the regular files that the filter includes, each once and in
depth-first order; ways through links do not count.  A root that is a regular
file is listed itself, but not if it is a link to one. -/
theorem plain_scan_exact {workspace : Workspace}
    (wellFormed : workspace.tree.WellFormed) (filter : FileFilter)
    (root : Bytes) :
    ((∃ problem, workspace.scan filter false root = .error problem) ↔
      ∀ node, workspace.find .use root ≠ .ok node) ∧
    (∀ entries, workspace.find .use root = .ok (.directory entries) →
      ∃ locations, (Node.directory entries).Visits locations ∧
        (locations.map (·.foldl Path.join root)).Nodup ∧
        workspace.scan filter false root =
          .ok ((locations.map (·.foldl Path.join root)).filter
            filter.includes)) ∧
    (∀ file, workspace.find .entry root = .ok (.file file) →
      workspace.scan filter false root =
        .ok ([root].filter filter.includes)) ∧
    (workspace.IsFileLink root →
      workspace.scan filter false root = .ok []) := by
  have scanned : ∀ node, workspace.find .use root = .ok node →
      workspace.scan filter false root =
        .ok ((workspace.scanAll root).filter filter.includes) := by
    intro node found
    apply workspace.scan_eq_of_pathExists
    rw [Workspace.pathExists, found]
    rfl
  refine ⟨?_, ?_, ?_, ?_⟩
  · constructor
    · rintro ⟨problem, failed⟩ node found
      rw [scanned node found] at failed
      cases failed
    · intro nothing
      refine ⟨.missingScanRoot, ?_⟩
      cases found : workspace.find .use root with
      | ok node => exact absurd found (nothing node)
      | error problem =>
          rw [Workspace.scan, Workspace.pathExists, found]
          rfl
  · intro entries found
    have notLink : ¬workspace.IsFileLink root := by
      rintro ⟨_, content, _, isFile⟩
      cases found.symm.trans isFile
    obtain ⟨location, _, isThere⟩ := Workspace.find_eq_ok_iff.mp found
    have below := wellFormed.get? isThere
    obtain ⟨locations, visits, spelled⟩ := below.exists_visits
    refine ⟨locations, visits, visits.nodup_spelled below root, ?_⟩
    rw [scanned _ found, Workspace.scanAll_of_find found notLink, spelled]
  · intro content found
    have used := Workspace.find_use_of_entry found
      fun _ isLink => by cases isLink
    rw [scanned _ used, Workspace.scanAll, found]
    rfl
  · rintro ⟨target, content, entry, used⟩
    rw [scanned _ used,
      Workspace.scanAll_of_isFileLink ⟨target, content, entry, used⟩,
      List.filter_nil]

/-- Capitals come first in bytes, links lead nowhere, and a name need not be a
text. -/
theorem plain_scan_of_tree_with_links :
    let empty : Node := .file { content := [] }
    let stray : Bytes := 0xFF :: Utf8.encode ".js"
    let entries : List (Bytes × Node) :=
      [("b.js", empty), ("loop", .link "."), (stray, empty),
        ("B.js", empty),
        (".git", .directory [("x.JS", empty), ("y.js", .link "gone")]),
        ("é.js", empty), ("b.css", empty)]
    let workspace : Workspace :=
      ⟨.directory [("app", .directory entries)], [], none⟩
    let filter : FileFilter := ⟨["js"], []⟩
    workspace.tree.WellFormed ∧
      workspace.find .use "app" = .ok (.directory entries) ∧
      ∃ locations, (Node.directory entries).Visits locations ∧
        (locations.map (·.foldl Path.join (Utf8.encode "app"))).filter
            filter.includes =
          [("app/.git/x.JS" : Bytes), ("app/B.js" : Bytes),
            ("app/b.js" : Bytes), ("app/é.js" : Bytes),
            Path.join "app" stray] := by
  intro empty stray entries workspace filter
  have wellFormed : workspace.tree.WellFormed := by decide +kernel
  have found : workspace.find .use "app" = .ok (.directory entries) := rfl
  obtain ⟨_, listed, _⟩ := plain_scan_exact wellFormed filter "app"
  obtain ⟨locations, visits, _, scanned⟩ := listed entries found
  have files : workspace.scan filter false "app" =
      .ok [("app/.git/x.JS" : Bytes), ("app/B.js" : Bytes),
        ("app/b.js" : Bytes), ("app/é.js" : Bytes),
        Path.join "app" stray] := by cbv
  exact ⟨wellFormed, found, locations, visits,
    Except.ok.inj (scanned.symm.trans files)⟩

end AccessAudit
