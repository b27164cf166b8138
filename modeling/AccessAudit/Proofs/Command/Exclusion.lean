import AccessAudit.Proofs.Command.Listing
import AccessAudit.Proofs.Glob.Remainder

/-!
# Which excluded paths are listed

Exclude patterns are put to a path as it is walked, and the manifest spells it
in another way.  A pattern that begins with `**/` still turns away what is
listed under a matching path, as long as the roots are tidy and the names are
texts, and any pattern does so where the paths are listed as they are walked.
-/

namespace AccessAudit

namespace Glob

/-- The pattern begins with `**/`, or is `**`. -/
def MatchesBelow (pattern : Pattern) : Prop :=
  ∃ tokens, pattern = .recursiveStart :: tokens

/-- A pattern that begins with `**/` matches every path that ends in a path
that it matches. -/
theorem isMatch_of_endsIn {pattern : Pattern} {separator : Separator}
    {text path : Bytes} (below : MatchesBelow pattern)
    (ends : Path.EndsIn text path)
    (matched : isMatch separator pattern text = true) :
    isMatch separator pattern path = true := by
  obtain ⟨tokens, rfl⟩ := below
  cases ends with
  | whole => exact matched
  | below front => exact isMatch_of_recursiveStart matched front

end Glob

namespace ManifestArguments.Listing

variable [Glob.Engine] {arguments : ManifestArguments}
  {options : GlobalOptions} {workspace : Workspace}

theorem tidy_of_mem_files (listing : Listing arguments options workspace)
    (wellFormed : workspace.tree.WellFormed)
    (tidy : ∀ root ∈ arguments.roots listing.config, Path.Tidy root)
    {file : Bytes} (member : file ∈ listing.files) : Path.Tidy file := by
  obtain ⟨_, below⟩ := listing.exists_root_of_mem_files member
  obtain ⟨root, isRoot, found⟩ := below wellFormed
  cases found with
  | intro _ _ proper => exact (tidy root isRoot).foldl_join proper

/-- Below tidy roots without dot or slash in front, paths of texts are listed
as they are walked. -/
theorem toManifestFrom_of_mem_files
    (listing : Listing arguments options workspace)
    (wellFormed : workspace.tree.WellFormed)
    (tidy : ∀ root ∈ arguments.roots listing.config, Path.Tidy root)
    (base : (Path.split arguments.base).1 ≠ .bare)
    (bare : ∀ root ∈ arguments.roots listing.config,
      (Path.split root).1 = .bare)
    {file : Bytes} (member : file ∈ listing.files)
    (isText : Utf8.WellFormed file) :
    Utf8.encode (Path.toManifestFrom arguments.base file) = file := by
  have tidyFile := listing.tidy_of_mem_files wellFormed tidy member
  obtain ⟨_, below⟩ := listing.exists_root_of_mem_files member
  obtain ⟨root, isRoot, found⟩ := below wellFormed
  cases found with
  | intro resolved _ proper =>
      have nonempty := (Workspace.resolve_eq_ok_iff.mp resolved).1
      obtain ⟨head, fileNonempty⟩ :=
        (tidy root isRoot).head_foldl_join nonempty proper
      rw [bare root isRoot] at head
      exact Path.toManifestFrom_of_bare base head tidyFile isText
        fileNonempty

/-- A listed path that matches an exclude pattern has been walked under
another one. -/
theorem exists_file_of_isMatch
    (listing : Listing arguments options workspace)
    {pattern : Glob.Pattern} (excluded : pattern ∈ listing.filter.excluded)
    {path : Text} (listed : path ∈ listing.paths)
    (matched : Glob.isMatch .ordinary pattern path = true) :
    ∃ file ∈ listing.files,
      Path.toManifestFrom arguments.base file = path ∧
        Glob.isMatch .ordinary pattern file = false ∧
        (Glob.MatchesBelow pattern → Path.Tidy file →
          ¬Utf8.WellFormed file) := by
  obtain ⟨nonempty, file, member, rfl⟩ := mem_manifestPaths.mp listed
  obtain ⟨included, _⟩ := listing.exists_root_of_mem_files member
  have unmatched := FileFilter.isMatch_of_includes included excluded
  refine ⟨file, member, rfl, unmatched, ?_⟩
  intro below tidy isText
  have ends := tidy.endsIn_toManifestFrom isText arguments.base nonempty
  exact absurd (Glob.isMatch_of_endsIn below ends matched)
    (Bool.eq_false_iff.mp unmatched)

end ManifestArguments.Listing

/-- A path that is listed although it matches an exclude pattern is another
spelling of a walked path that does not match, and if the pattern begins with
`**/` then that path is not tidy, or not a text.  So nothing excluded is
listed below tidy roots where all paths are texts, if the pattern begins with
`**/` or the paths are listed as they are walked. -/
theorem excluded_listed_only_respelled [Glob.Engine]
    {arguments : ManifestArguments} {options : GlobalOptions}
    {workspace : Workspace}
    (success : (arguments.run options workspace).exitCode = 0) :
    ∃ listing : arguments.Listing options workspace,
      listing.Delivered (arguments.run options workspace) ∧
      (listing.config.scan.exclude ++ arguments.exclude).map Glob.parse =
        listing.filter.excluded.map .ok ∧
      ∀ pattern ∈ listing.filter.excluded,
        (∀ path ∈ listing.paths,
          Glob.isMatch .ordinary pattern path = true →
            ∃ file ∈ listing.files,
              Path.toManifestFrom arguments.base file = path ∧
              Glob.isMatch .ordinary pattern file = false ∧
              (Glob.MatchesBelow pattern → Path.Tidy file →
                ¬Utf8.WellFormed file)) ∧
        (workspace.tree.WellFormed →
          (∀ root ∈ arguments.roots listing.config, Path.Tidy root) →
          (∀ file ∈ listing.files, Utf8.WellFormed file) →
          Glob.MatchesBelow pattern ∨
              (Path.split arguments.base).1 ≠ .bare ∧
                (∀ root ∈ arguments.roots listing.config,
                  (Path.split root).1 = .bare) →
          ∀ path ∈ listing.paths,
            Glob.isMatch .ordinary pattern path = false) := by
  obtain ⟨listing⟩ := ManifestArguments.exists_listing success
  have delivered := listing.delivered success
  refine ⟨listing, delivered, listing.map_parse_eq, ?_⟩
  intro pattern excluded
  constructor
  · intro path listed matched
    exact listing.exists_file_of_isMatch excluded listed matched
  · intro wellFormed tidy texts agreeing path listed
    rw [Bool.eq_false_iff]
    intro matched
    obtain ⟨file, member, spelled, unmatched, untidy⟩ :=
      listing.exists_file_of_isMatch excluded listed matched
    rcases agreeing with below | ⟨base, bare⟩
    · exact untidy below
        (listing.tidy_of_mem_files wellFormed tidy member)
        (texts file member)
    · have same := listing.toManifestFrom_of_mem_files wellFormed tidy base
        bare member (texts file member)
      rw [← spelled, same, unmatched] at matched
      cases matched

/-- Below roots that are given by name, a pattern may begin with a name. -/
theorem excluded_not_listed_below_named_roots :
    letI : Glob.Engine := .standard
    let empty : Node := .file { content := [] }
    let workspace : Workspace :=
      ⟨.directory [("backend", .directory [("secret.js", empty)]),
        ("react", .directory [("open.js", empty)])], [], none⟩
    let arguments : ManifestArguments :=
      ⟨["backend", "react"], none, ".", none, ["backend/secret.js"], false,
        none⟩
    let options : GlobalOptions := ⟨0, false, .auto, true⟩
    (arguments.run options workspace).exitCode = 0 ∧
      (arguments.run options workspace).output =
        Manifest.format ["react/open.js"] ∧
      ∃ listing : arguments.Listing options workspace,
        ∀ pattern ∈ listing.filter.excluded, ∀ path ∈ listing.paths,
          Glob.isMatch .ordinary pattern path = false := by
  let _ : Glob.Engine := .standard
  intro empty workspace arguments options
  have success : (arguments.run options workspace).exitCode = 0 := by
    decide +kernel
  have wellFormed : workspace.tree.WellFormed := by decide
  have tidy : ∀ root ∈ arguments.roots {}, Path.Tidy root := by
    decide +kernel
  have bare : ∀ root ∈ arguments.roots {},
      (Path.split root).1 = .bare := by decide +kernel
  have base : (Path.split arguments.base).1 ≠ .bare := by decide +kernel
  obtain ⟨listing, _, _, agreement⟩ := excluded_listed_only_respelled success
  have texts : ∀ file ∈ listing.files, Utf8.WellFormed file := by
    let excluded : List Text := ["**/node_modules/**", "backend/secret.js"]
    let filter : FileFilter := ⟨defaultExtensions,
      excluded.map fun text => (Glob.parse text).toOption.getD []⟩
    have taken : Glob.Engine.refusal? filter.excluded = none := by
      decide +kernel
    have isFilter : arguments.filter {} = .ok filter := by
      rw [ManifestArguments.filter,
        FileFilter.build_eq_ok_iff.mpr ⟨rfl, rfl, taken⟩]
    rw [listing.files_eq rfl isFilter
      (show _ = some [Utf8.encode "react/open.js"] by decide +kernel)]
    intro file member
    rw [List.mem_singleton.mp member]
    exact Utf8.wellFormed_encode _
  refine ⟨success, by decide +kernel, listing, ?_⟩
  intro pattern excluded
  exact (agreement pattern excluded).2 wellFormed tidy texts
    (Or.inr ⟨base, bare⟩)

/-- From the current directory the file is walked as `./backend/secret.js`,
which the pattern does not match, and listed. -/
theorem excluded_path_listed_below_configured_root :
    letI : Glob.Engine := .standard
    let empty : Node := .file { content := [] }
    let workspace : Workspace :=
      ⟨.directory [("backend", .directory [("secret.js", empty)])], [],
        none⟩
    let arguments : ManifestArguments :=
      ⟨[], none, ".", none, ["backend/secret.js"], false, none⟩
    let options : GlobalOptions := ⟨0, false, .auto, true⟩
    (arguments.run options workspace).exitCode = 0 ∧
      (arguments.run options workspace).output =
        Manifest.format ["backend/secret.js"] ∧
      ∃ pattern, Glob.parse "backend/secret.js" = .ok pattern ∧
        Glob.isMatch .ordinary pattern "backend/secret.js" = true := by
  refine ⟨?_, ?_, _, rfl, ?_⟩
  · decide +kernel
  · decide +kernel
  · decide +kernel

end AccessAudit
