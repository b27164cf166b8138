import AccessAudit.Proofs.FileSystem.Writing
import AccessAudit.Proofs.Scan.Found

/-!
# What respecting ignore files changes

A walk that meets no ignore file is the plain walk.  Scans with and without
ignore rules part in two more cases: a root that is a link to a regular file
is taken for that file only if ignore rules are respected, and a root that is
written as standard input holds no files then.
-/

namespace AccessAudit

namespace IgnoreLevel

/-- The directory has no ignore rules of any kind. -/
structure Silent (level : IgnoreLevel) : Prop where
  ignore : level.ignore = []
  gitignore : level.gitignore = []
  exclude : level.exclude = []

/-- The names of ignore files, as they are read from a directory. -/
def fileNames : List Bytes :=
  [".ignore", ".gitignore", ".git/info/exclude"]

theorem silent_ofDirectory {read : Bytes → Option Bytes} {directory : Bytes}
    (absent : ∀ name ∈ fileNames, read (Path.join directory name) = none) :
    (ofDirectory read directory).Silent := by
  have ignore := absent ".ignore" (by simp [fileNames])
  have gitignore := absent ".gitignore" (by simp [fileNames])
  have exclude := absent ".git/info/exclude" (by simp [fileNames])
  constructor
  · simp only [ofDirectory, ignore]
  · simp only [ofDirectory, gitignore]
  · simp only [ofDirectory, exclude]

theorem judgeAll_eq_silent {kind : IgnoreLevel → List IgnoreRule}
    {levels : List IgnoreLevel}
    (noRules : ∀ level ∈ levels, kind level = [])
    (path : Bytes) (isDirectory : Bool) :
    judgeAll kind levels path isDirectory = .silent := by
  induction levels with
  | nil => rfl
  | cons level rest ih =>
      have first := noRules level List.mem_cons_self
      have later := ih fun other member =>
        noRules other (List.mem_cons_of_mem level member)
      rw [judgeAll] at later
      rw [judgeAll, List.foldr_cons, later, first]
      rfl

theorem isIgnored_eq_false {user : UserRules} {levels : List IgnoreLevel}
    (noRules : user.rules = []) (silent : ∀ level ∈ levels, level.Silent)
    (path : Bytes) (isDirectory : Bool) :
    isIgnored user levels path isDirectory = false := by
  have ignore := judgeAll_eq_silent fun level member =>
    (silent level member).ignore
  have gitignore := judgeAll_eq_silent fun level member =>
    (silent level member).gitignore
  have exclude := judgeAll_eq_silent fun level member =>
    (silent level member).exclude
  rw [isIgnored, ignore, gitignore, exclude, UserRules.judge, noRules]
  rfl

end IgnoreLevel

namespace Node

/-- The directories that a walk from a path comes through. -/
inductive WalksThrough : Node → Bytes → Bytes → Prop
  | here (entries : List (Bytes × Node)) (path : Bytes) :
      WalksThrough (.directory entries) path path
  | inside {entries : List (Bytes × Node)} {entry : Bytes × Node}
      {path directory : Bytes} (member : entry ∈ entries)
      (later : WalksThrough entry.2 (Path.join path entry.1) directory) :
      WalksThrough (.directory entries) path directory

/-- Where neither the user nor any directory on the way has rules, nothing is
left out. -/
theorem walkKept_eq_walk {read : Bytes → Option Bytes} {user : UserRules}
    {node : Node} {levels : List IgnoreLevel} {path : Bytes}
    (noRules : user.rules = []) (above : ∀ level ∈ levels, level.Silent)
    (below : ∀ directory, node.WalksThrough path directory →
      (IgnoreLevel.ofDirectory read directory).Silent) :
    node.walkKept read user levels path = node.walk path := by
  induction node using Node.induct generalizing levels path with
  | file content => rfl
  | link target => rfl
  | directory entries ih =>
      have here := below path (.here entries path)
      have silent : ∀ level ∈ IgnoreLevel.ofDirectory read path :: levels,
          level.Silent := List.forall_mem_cons.mpr ⟨here, above⟩
      rw [walkKept_directory, walk_directory, List.flatMap_def,
        List.flatMap_def]
      apply congrArg List.flatten
      apply List.map_congr_left
      intro entry sorted
      have member := mem_byName.mp sorted
      rw [IgnoreLevel.isIgnored_eq_false noRules silent]
      apply ih entry member silent
      intro directory later
      exact below directory (.inside member later)

end Node

namespace Workspace

/-- A directory that is walked from the root has an ignore file. -/
def IgnoreFileBelow (workspace : Workspace) (root : Bytes) : Prop :=
  ∃ node directory, workspace.find .use root = .ok node ∧
    node.WalksThrough root directory ∧
    ∃ name ∈ IgnoreLevel.fileNames,
      workspace.isFile (Path.join directory name) = true

/-- The path is a link to a regular file. -/
def IsFileLink (workspace : Workspace) (path : Bytes) : Prop :=
  ∃ target file, workspace.find .entry path = .ok (.link target) ∧
    workspace.find .use path = .ok (.file file)

/-- What a path is used for is its own entry, or the entry is a link. -/
theorem find_entry_of_use {workspace : Workspace} {path : Bytes} {node : Node}
    (found : workspace.find .use path = .ok node) :
    workspace.find .entry path = .ok node ∨
      ∃ target, workspace.find .entry path = .ok (.link target) := by
  obtain ⟨location, resolved, there⟩ := find_eq_ok_iff.mp found
  obtain ⟨reached, entry⟩ := resolve_entry resolved
  by_cases isLink : ∃ place target, reached = .occupied place ∧
      workspace.tree.look place = some (.link target)
  · obtain ⟨place, target, rfl, seen⟩ := isLink
    right
    refine ⟨target, find_eq_ok_iff.mpr ⟨place, entry, ?_⟩⟩
    rw [Node.look, Option.map_eq_some_iff] at seen
    obtain ⟨stopped, isThere, surface⟩ := seen
    cases stopped with
    | link other =>
        cases surface
        exact isThere
    | file content => cases surface
    | directory entries => cases surface
  · left
    have used : workspace.resolve .use path = .ok reached := by
      apply resolve_use entry
      intro _ place arrived target seen
      exact isLink ⟨place, target, arrived, seen⟩
    rw [resolved, Except.ok.injEq] at used
    subst used
    exact find_eq_ok_iff.mpr ⟨location, entry, there⟩

/-! ## The two scans of one root -/

theorem scanAll_of_isFileLink {workspace : Workspace} {root : Bytes}
    (isLink : workspace.IsFileLink root) : workspace.scanAll root = [] := by
  obtain ⟨target, content, entry, used⟩ := isLink
  simp only [scanAll, entry, used]

theorem scanAll_of_find {workspace : Workspace} {root : Bytes} {node : Node}
    (found : workspace.find .use root = .ok node)
    (notLink : ¬workspace.IsFileLink root) :
    workspace.scanAll root = node.walk root := by
  rcases find_entry_of_use found with same | ⟨target, entry⟩
  · cases node with
    | file content => simp only [scanAll, same]
    | link target => simp only [scanAll, same, found, Node.walk]
    | directory entries => simp only [scanAll, same]
  · cases node with
    | file content => exact absurd ⟨target, content, entry, found⟩ notLink
    | link target => simp only [scanAll, entry, found, Node.walk]
    | directory entries => simp only [scanAll, entry, found]

theorem scanKept_of_isStandardInput {workspace : Workspace} {root : Bytes}
    (standard : isStandardInput root = true) :
    workspace.scanKept root = [] := by
  rw [scanKept, if_pos standard]

theorem scanKept_of_find {workspace : Workspace} {root : Bytes} {node : Node}
    (found : workspace.find .use root = .ok node)
    (named : isStandardInput root = false) :
    workspace.scanKept root = node.walkKept
      (fun path => (workspace.read path).toOption) workspace.userRules []
        root := by
  simp only [scanKept, named, found, Bool.false_eq_true, if_false]

theorem scanKept_of_isFileLink {workspace : Workspace} {root : Bytes}
    (isLink : workspace.IsFileLink root)
    (named : isStandardInput root = false) :
    workspace.scanKept root = [root] := by
  obtain ⟨target, content, entry, used⟩ := isLink
  rw [scanKept_of_find used named, Node.walkKept]

theorem scanKept_sublist_scanAll {workspace : Workspace} {root : Bytes}
    (notLink : ¬workspace.IsFileLink root) :
    (workspace.scanKept root).Sublist (workspace.scanAll root) := by
  cases standard : isStandardInput root with
  | true =>
      rw [scanKept_of_isStandardInput standard]
      exact List.nil_sublist _
  | false =>
      cases found : workspace.find .use root with
      | error problem =>
          have none : workspace.scanKept root = [] := by
            simp [scanKept, standard, found]
          rw [none]
          exact List.nil_sublist _
      | ok node =>
          rw [scanKept_of_find found standard, scanAll_of_find found notLink]
          exact node.walkKept_sublist_walk _ _ _ _

/-- Without ignore files, both scans list the same. -/
theorem scanKept_eq_scanAll {workspace : Workspace} {root : Bytes}
    {node : Node} (found : workspace.find .use root = .ok node)
    (notLink : ¬workspace.IsFileLink root)
    (named : isStandardInput root = false)
    (noRules : workspace.userRules.rules = [])
    (noIgnoreFile : ¬workspace.IgnoreFileBelow root) :
    workspace.scanKept root = workspace.scanAll root := by
  rw [scanKept_of_find found named, scanAll_of_find found notLink]
  apply Node.walkKept_eq_walk noRules
  · simp
  · intro directory through
    apply IgnoreLevel.silent_ofDirectory
    intro name isName
    cases read : workspace.read (Path.join directory name) with
    | error problem => rfl
    | ok content =>
        have isFile := isFile_of_contentAt (read_eq_ok_iff.mp read)
        exact absurd
          ⟨node, directory, found, through, name, isName, isFile⟩
          noIgnoreFile

/-- The scan finds the root itself only if ignore rules are respected. -/
structure AddsRoot (workspace : Workspace) (filter : FileFilter)
    (root : Bytes) : Prop where
  isFileLink : workspace.IsFileLink root
  named : isStandardInput root = false
  included : filter.includes root = true

theorem scan_eq_of_pathExists {workspace : Workspace} {root : Bytes}
    (present : workspace.pathExists root = true) (filter : FileFilter)
    (respectIgnoreFiles : Bool) :
    workspace.scan filter respectIgnoreFiles root =
      .ok ((if respectIgnoreFiles then workspace.scanKept root
        else workspace.scanAll root).filter filter.includes) := by
  rw [scan, present]
  rfl

theorem AddsRoot.filter_scanKept {workspace : Workspace}
    {filter : FileFilter} {root : Bytes}
    (adds : workspace.AddsRoot filter root) :
    (workspace.scanKept root).filter filter.includes = [root] := by
  rw [scanKept_of_isFileLink adds.isFileLink adds.named]
  simp [adds.included]

theorem filter_scanKept_of_isFileLink {workspace : Workspace}
    {filter : FileFilter} {root : Bytes}
    (isLink : workspace.IsFileLink root)
    (addsNot : ¬workspace.AddsRoot filter root) :
    (workspace.scanKept root).filter filter.includes = [] := by
  cases standard : isStandardInput root with
  | true => rw [scanKept_of_isStandardInput standard, List.filter_nil]
  | false =>
      have excluded : filter.includes root ≠ true := fun included =>
        addsNot ⟨isLink, standard, included⟩
      rw [scanKept_of_isFileLink isLink standard]
      simp [excluded]

theorem filter_scanKept_sublist {workspace : Workspace}
    {filter : FileFilter} {root : Bytes}
    (addsNot : ¬workspace.AddsRoot filter root) :
    ((workspace.scanKept root).filter filter.includes).Sublist
      ((workspace.scanAll root).filter filter.includes) := by
  by_cases isLink : workspace.IsFileLink root
  · rw [filter_scanKept_of_isFileLink isLink addsNot]
    exact List.nil_sublist _
  · exact (scanKept_sublist_scanAll isLink).filter _

theorem filter_scanKept_eq {workspace : Workspace} {filter : FileFilter}
    {root : Bytes} (present : workspace.pathExists root = true)
    (noRules : workspace.userRules.rules = [])
    (noIgnoreFile : ¬workspace.IgnoreFileBelow root)
    (named : isStandardInput root = false)
    (addsNot : ¬workspace.AddsRoot filter root) :
    (workspace.scanKept root).filter filter.includes =
      (workspace.scanAll root).filter filter.includes := by
  by_cases isLink : workspace.IsFileLink root
  · rw [filter_scanKept_of_isFileLink isLink addsNot,
      scanAll_of_isFileLink isLink, List.filter_nil]
  · cases found : workspace.find .use root with
    | error problem =>
        rw [pathExists, found] at present
        cases present
    | ok node =>
        rw [scanKept_eq_scanAll found isLink named noRules noIgnoreFile]

end Workspace

/-- Of an existing root, a scan that respects ignore files lists a part of
what the other scan lists, in the same order, exactly if it does not add the
root, and then the part is the whole unless there is an ignore file, the user
has ignore rules or the root is written as standard input. -/
theorem scan_respecting_ignore_files {workspace : Workspace} {root : Bytes}
    (present : workspace.pathExists root = true) (filter : FileFilter) :
    ∃ kept all,
      workspace.scan filter true root = .ok kept ∧
      workspace.scan filter false root = .ok all ∧
      (kept.Sublist all ↔ ¬workspace.AddsRoot filter root) ∧
      (workspace.AddsRoot filter root → kept = [root] ∧ all = []) ∧
      (Workspace.isStandardInput root = true → kept = []) ∧
      (workspace.userRules.rules = [] →
        ¬workspace.IgnoreFileBelow root →
        Workspace.isStandardInput root = false →
        ¬workspace.AddsRoot filter root → kept = all) := by
  have keptScan := workspace.scan_eq_of_pathExists present filter true
  have allScan := workspace.scan_eq_of_pathExists present filter false
  have added : workspace.AddsRoot filter root →
      (workspace.scanKept root).filter filter.includes = [root] ∧
        (workspace.scanAll root).filter filter.includes = [] := by
    intro adds
    refine ⟨adds.filter_scanKept, ?_⟩
    rw [Workspace.scanAll_of_isFileLink adds.isFileLink, List.filter_nil]
  refine ⟨_, _, keptScan, allScan, ?_, added, ?_, ?_⟩
  · constructor
    · intro sublist adds
      obtain ⟨kept, all⟩ := added adds
      simp [kept, all] at sublist
    · exact Workspace.filter_scanKept_sublist
  · intro standard
    simp [Workspace.scanKept_of_isStandardInput standard]
  · intro noRules noIgnoreFile named addsNot
    exact Workspace.filter_scanKept_eq present noRules noIgnoreFile named
      addsNot

private theorem eq_ok_of_toOption {problem α : Type}
    {result : Except problem α} {value : α}
    (same : result.toOption = some value) : result = .ok value := by
  cases result with
  | error _ => cases same
  | ok _ => exact congrArg Except.ok (Option.some.inj same)

/-- An ignored file is left out, and nothing else. -/
theorem scan_leaves_out_ignored_file :
    let entries : List (Bytes × Node) :=
      [(".gitignore", .file { content := Utf8.encode "b.js\n" }),
        ("a.js", .file { content := [] }), ("b.js", .file { content := [] })]
    let workspace : Workspace :=
      ⟨.directory [("app", .directory entries)], [], none⟩
    let filter : FileFilter := ⟨["js"], []⟩
    workspace.pathExists "app" = true ∧
      ∃ kept all, workspace.scan filter true "app" = .ok kept ∧
        workspace.scan filter false "app" = .ok all ∧
        kept = [("app/a.js" : Bytes)] ∧
        all = [("app/a.js" : Bytes), ("app/b.js" : Bytes)] ∧
        kept.Sublist all := by
  intro entries workspace filter
  have present : workspace.pathExists "app" = true := by decide +kernel
  have found : workspace.find .use "app" = .ok (.directory entries) := rfl
  have isDirectory : ¬workspace.IsFileLink "app" := by
    rintro ⟨_, _, entry, _⟩
    cases entry
  have sorted : Node.byName entries = entries := by
    apply List.mergeSort_of_pairwise
    decide +kernel
  obtain ⟨kept, all, keptScan, allScan, sublist, _⟩ :=
    scan_respecting_ignore_files present filter
  refine ⟨present, kept, all, keptScan, allScan, ?_, ?_,
    sublist.mpr fun adds => isDirectory adds.isFileLink⟩
  · rw [workspace.scan_eq_of_pathExists present, if_pos rfl,
      Workspace.scanKept_of_find found (by decide), Node.walkKept_directory,
      sorted] at keptScan
    rw [← Except.ok.inj keptScan]
    decide +kernel
  · rw [workspace.scan_eq_of_pathExists present, if_neg (by decide),
      Workspace.scanAll_of_find found isDirectory, Node.walk_directory,
      sorted] at allScan
    rw [← Except.ok.inj allScan]
    decide +kernel

/-- Without any ignore file, respecting ignore files adds a root that is a
link to a file, and takes away all files below a root that is written as
standard input. -/
theorem scan_differs_without_ignore_files :
    let workspace : Workspace :=
      ⟨.directory [("a.js", .file { content := [] }), ("l.js", .link "a.js"),
        ("-", .directory [("x.js", .file { content := [] })])], [], none⟩
    let filter : FileFilter := ⟨["js"], []⟩
    (workspace.pathExists "l.js" = true ∧
        ¬workspace.IgnoreFileBelow "l.js" ∧
        ∃ kept all, workspace.scan filter true "l.js" = .ok kept ∧
          workspace.scan filter false "l.js" = .ok all ∧
          ¬kept.Sublist all) ∧
      workspace.pathExists "-" = true ∧ ¬workspace.IgnoreFileBelow "-" ∧
        ∃ kept all, workspace.scan filter true "-" = .ok kept ∧
          workspace.scan filter false "-" = .ok all ∧ kept ≠ all := by
  intro workspace filter
  have linkKept : workspace.scan filter true "l.js" = .ok [("l.js" : Bytes)] :=
    eq_ok_of_toOption (by decide +kernel)
  have linkAll : workspace.scan filter false "l.js" = .ok [] :=
    eq_ok_of_toOption (by decide +kernel)
  have dashKept : workspace.scan filter true "-" = .ok [] :=
    eq_ok_of_toOption (by decide +kernel)
  have dashAll : workspace.scan filter false "-" =
      .ok [("-/x.js" : Bytes)] := eq_ok_of_toOption (by decide +kernel)
  refine ⟨⟨by decide +kernel, ?_, _, _, linkKept, linkAll, by simp⟩,
    by decide +kernel, ?_, _, _, dashKept, dashAll, by simp⟩
  · rintro ⟨node, directory, found, through, _⟩
    cases found
    cases through
  · rintro ⟨node, directory, found, through, name, isName, isFile⟩
    cases found
    cases through with
    | here =>
        revert isFile
        revert name
        decide +kernel
    | inside member later =>
        cases List.mem_singleton.mp member
        cases later

end AccessAudit
