import AccessAudit.Proofs.Path.Spelling

/-!
# Which files the paths of a manifest stand for

A path below the base is listed without the components of the base, any other
path with all its components but the root.  So a listed path leads back to the
file, except that the root of an absolute path is lost where the base does not
give it back, and that a name that is no text is replaced by one.
-/

namespace AccessAudit

/-- What a component adds to a path in manifest form. -/
def Component.segment? : Component → Option Bytes
  | .name segment => some segment
  | .parent => some [Path.dot, Path.dot]
  | .root | .current => none

namespace Path

/-- The components of a path but for a dot. -/
def essential (path : Bytes) : List Component :=
  (components path).filter (· ≠ .current)

/-- The path begins with all components of the base. -/
def LiesBelow (base path : Bytes) : Prop :=
  components base <+: components path

/-- The segments by which a path is listed. -/
def spelled (base path : Bytes) : List Bytes :=
  ((componentsBelow? base path).getD (components path)).filterMap
    Component.segment?

/-- The segments by which a path is listed are texts. -/
def Legible (base path : Bytes) : Prop :=
  ∀ segment ∈ spelled base path, Utf8.WellFormed segment

/-- The listed path leads to the file: from the base, if the file lies below
it, or else by itself. -/
structure Represents (base file : Bytes) (listed : Text) : Prop where
  below : LiesBelow base file →
    essential (join base listed) = essential file
  outside : ¬LiesBelow base file → essential listed = essential file

/-- If the file is given from the root, it lies below a base that is. -/
def KeepsRoot (base file : Bytes) : Prop :=
  isAbsolute file = true → LiesBelow base file ∧ isAbsolute base = true

/-! ## Components and segments -/

theorem filterMap_segment?_map_ofSegment (segments : List Bytes) :
    (segments.map ofSegment).filterMap Component.segment? = segments := by
  induction segments with
  | nil => rfl
  | cons segment rest ih =>
      have kept : (ofSegment segment).segment? = some segment := by
        rw [ofSegment]
        split
        · next parent => exact congrArg some parent.symm
        · rfl
      rw [List.map_cons, List.filterMap_cons_some kept, ih]

theorem filterMap_segment?_components (path : Bytes) :
    (components path).filterMap Component.segment? = significant path := by
  have start : (split path).1.components.filterMap Component.segment? =
      [] := by
    cases (split path).1 <;> rfl
  rw [components_eq, List.filterMap_append, start,
    filterMap_segment?_map_ofSegment, List.nil_append]

theorem head_eq_root_iff (path : Bytes) :
    (split path).1 = .root ↔ isAbsolute path = true := by
  rw [split]
  cases cut : Text.pieces slash path with
  | nil => exact absurd cut (Text.pieces_ne_nil slash path)
  | cons first rest =>
      cases isAbsolute path with
      | true => simp
      | false =>
          simp only [Bool.false_eq_true, if_false, iff_false]
          split
          · simp
          · split <;> simp

theorem root_mem_components_iff (path : Bytes) :
    .root ∈ components path ↔ isAbsolute path = true := by
  have starts : .root ∈ Head.root.components := List.mem_cons_self
  have notSegment := not_mem_map_ofSegment starts (significant path)
  rw [components_eq, List.mem_append, or_iff_left notSegment,
    ← head_eq_root_iff]
  cases (split path).1 <;> simp [Head.components]

theorem essential_eq (path : Bytes) :
    essential path = (if isAbsolute path then [.root] else []) ++
      (significant path).map ofSegment := by
  have segments : ((significant path).map ofSegment).filter
      (· ≠ .current) = (significant path).map ofSegment := by
    rw [List.filter_eq_self]
    intro component member
    have different : component ≠ .current := by
      rintro rfl
      have starts : .current ∈ Head.current.components := List.mem_cons_self
      exact not_mem_map_ofSegment starts _ member
    simpa using different
  rw [essential, components_eq, List.filter_append, segments]
  have root := head_eq_root_iff path
  cases head : (split path).1 with
  | root => simp [root.mp head, Head.components]
  | current | bare =>
      have relative : isAbsolute path = false := by
        rw [Bool.eq_false_iff, Ne, ← root, head]
        simp
      simp [relative, Head.components]

theorem essential_eq_iff {path other : Bytes} :
    essential path = essential other ↔
      isAbsolute path = isAbsolute other ∧
        significant path = significant other := by
  constructor
  · intro same
    have absolute : ∀ text, isAbsolute text = true ↔
        .root ∈ essential text := by
      intro text
      rw [← root_mem_components_iff]
      simp [essential]
    have segments : ∀ text, (essential text).filterMap Component.segment? =
        significant text := by
      intro text
      rw [essential_eq, List.filterMap_append,
        filterMap_segment?_map_ofSegment]
      split <;> rfl
    refine ⟨?_, ?_⟩
    · rw [Bool.eq_iff_iff, absolute, absolute, same]
    · rw [← segments, ← segments, same]
  · rintro ⟨absolute, segments⟩
    rw [essential_eq, essential_eq, absolute, segments]

/-! ## Spelled segments -/

theorem manifestForm_eq_shown (components : List Component) :
    manifestForm components =
      shown (components.filterMap Component.segment?) := by
  have dots : Utf8.decodeLossy [dot, dot] = ".." := by decide +kernel
  rw [manifestForm, shown, List.map_filterMap]
  congr 2
  funext component
  cases component <;> simp [Component.segment?, dots]

theorem toManifestFrom_eq_shown (base path : Bytes) :
    toManifestFrom base path = shown (spelled base path) :=
  manifestForm_eq_shown _

theorem spelled_of_not_liesBelow {base path : Bytes}
    (outside : ¬LiesBelow base path) :
    spelled base path = significant path := by
  have none : componentsBelow? base path = none := by
    rw [componentsBelow?, if_neg]
    exact fun below => outside (List.isPrefixOf_iff_prefix.mp below)
  rw [spelled, none, Option.getD_none, filterMap_segment?_components]

theorem significant_eq_of_liesBelow {base path : Bytes}
    (below : LiesBelow base path) :
    significant path = significant base ++ spelled base path := by
  obtain ⟨rest, whole⟩ := below
  have some : componentsBelow? base path = some rest := by
    rw [componentsBelow?, ← whole, if_pos (by simp), List.drop_left]
  rw [spelled, some, Option.getD_some, ← filterMap_segment?_components,
    ← whole, List.filterMap_append, filterMap_segment?_components]

theorem spelled_isSuffix (base path : Bytes) :
    spelled base path <:+ significant path := by
  by_cases below : LiesBelow base path
  · exact ⟨significant base, (significant_eq_of_liesBelow below).symm⟩
  · exact ⟨[], spelled_of_not_liesBelow below⟩

theorem isIdle_of_mem_respelled {base path segment : Bytes}
    (member : segment ∈ (spelled base path).map respelled) :
    isIdle segment = false := by
  obtain ⟨original, isOriginal, rfl⟩ := List.mem_map.mp member
  rw [isIdle_respelled]
  exact notIdle_of_mem_significant
    ((spelled_isSuffix base path).subset isOriginal)

/-- The listed path is relative, and its segments are those it is spelled
by. -/
theorem significant_toManifestFrom (base path : Bytes) :
    isAbsolute (toManifestFrom base path) = false ∧
      significant (toManifestFrom base path) =
        (spelled base path).map respelled := by
  rw [toManifestFrom_eq_shown]
  by_cases empty : spelled base path = []
  · rw [empty]
    decide
  · have pieces := pieces_encode_shown empty fun segment member =>
      not_mem_of_mem_significant
        ((spelled_isSuffix base path).subset member)
    constructor
    · rw [Bool.eq_false_iff]
      intro absolute
      obtain ⟨second, rest, cut⟩ := isAbsolute_iff.mp absolute
      have first : ([] : Bytes) ∈ (spelled base path).map respelled := by
        rw [← pieces, cut]
        exact List.mem_cons_self
      cases isIdle_of_mem_respelled first
    · rw [significant, pieces, List.filter_eq_self]
      intro segment member
      simp [isIdle_of_mem_respelled member]

theorem toManifestFrom_ne_nil_iff {base path : Bytes} :
    toManifestFrom base path ≠ [] ↔ spelled base path ≠ [] := by
  have segments := (significant_toManifestFrom base path).2
  constructor
  · intro listed empty
    rw [toManifestFrom_eq_shown, empty] at listed
    exact listed rfl
  · intro named empty
    rw [empty] at segments
    exact named (List.map_eq_nil_iff.mp segments.symm)

theorem isAbsolute_join {base path : Bytes}
    (relative : isAbsolute path = false) :
    isAbsolute (join base path) = isAbsolute base := by
  cases base with
  | nil => simp [join, relative]
  | cons c rest =>
      rw [Bool.eq_iff_iff, isAbsolute_cons]
      rcases join_of_relative (c :: rest) relative with
        ⟨empty, _⟩ | ⟨front, whole, same⟩ | ⟨_, same⟩
      · cases empty
      · rw [same]
        cases front with
        | nil =>
            cases whole
            simp
        | cons first others =>
            cases whole
            rw [List.cons_append, isAbsolute_cons]
      · rw [same, List.cons_append, isAbsolute_cons]

theorem isAbsolute_of_liesBelow {base path : Bytes}
    (below : LiesBelow base path) (absolute : isAbsolute base = true) :
    isAbsolute path = true := by
  rw [← root_mem_components_iff] at absolute ⊢
  exact below.subset absolute

theorem Head.length_components_le (head : Head) :
    head.components.length ≤ 1 := by
  cases head <;> decide

/-- Only the base itself and paths without any segment are listed by no
segment. -/
theorem spelled_ne_nil {base file : Bytes}
    (notBase : components file ≠ components base)
    (segments : significant file ≠ []) : spelled base file ≠ [] := by
  by_cases below : LiesBelow base file
  · intro empty
    have same := significant_eq_of_liesBelow below
    rw [empty, List.append_nil] at same
    obtain ⟨rest, whole⟩ := below
    have more : rest ≠ [] := by
      rintro rfl
      rw [List.append_nil] at whole
      exact notBase whole.symm
    -- The file has one more component, which has to be its beginning.
    obtain ⟨segment, others, cut⟩ := List.exists_cons_of_ne_nil segments
    rw [components_eq base, components_eq file, ← same, cut,
      List.map_cons] at whole
    have lengths := congrArg List.length whole
    have short := (split file).1.length_components_le
    have longer := List.length_pos_iff.mpr more
    simp only [List.length_append] at lengths
    have bare : (split base).1.components = [] := by
      apply List.eq_nil_of_length_eq_zero
      omega
    have begun : (split file).1.components ≠ [] := by
      intro none
      rw [none, List.length_nil] at lengths
      omega
    obtain ⟨start, tail, isStart⟩ := List.exists_cons_of_ne_nil begun
    rw [bare, isStart] at whole
    have first : ofSegment segment = start := (List.cons.inj whole).1
    have starts : start ∈ (split file).1.components := by
      rw [isStart]
      exact List.mem_cons_self
    apply not_mem_map_ofSegment starts [segment]
    rw [← first]
    exact List.mem_cons_self
  · rw [spelled_of_not_liesBelow below]
    exact segments

/-- The segments by which a path is listed are its own exactly if they are
texts. -/
theorem map_respelled_spelled_iff {base path : Bytes} :
    (spelled base path).map respelled = spelled base path ↔
      Legible base path :=
  map_respelled_eq_self_iff

/-- Below the base or outside it, the segments by which two files are listed
tell them apart, if they are texts. -/
theorem significant_eq_of_toManifestFrom {base file other : Bytes}
    (alike : LiesBelow base file ↔ LiesBelow base other)
    (legible : Legible base file) (otherLegible : Legible base other)
    (same : toManifestFrom base file = toManifestFrom base other) :
    significant file = significant other := by
  have spelling : spelled base file = spelled base other := by
    rw [← map_respelled_spelled_iff.mpr legible,
      ← (significant_toManifestFrom base file).2, same,
      (significant_toManifestFrom base other).2,
      map_respelled_spelled_iff.mpr otherLegible]
  by_cases below : LiesBelow base file
  · rw [significant_eq_of_liesBelow below,
      significant_eq_of_liesBelow (alike.mp below), spelling]
  · have otherOutside : ¬LiesBelow base other := fun otherBelow =>
      below (alike.mpr otherBelow)
    rw [← spelled_of_not_liesBelow below, spelling,
      spelled_of_not_liesBelow otherOutside]

/-! ## Representation -/

theorem represents_iff_of_liesBelow {base file : Bytes} {listed : Text}
    (below : LiesBelow base file) (relative : isAbsolute listed = false) :
    Represents base file listed ↔ KeepsRoot base file ∧
      significant listed = spelled base file := by
  have keeps : KeepsRoot base file ↔ isAbsolute base = isAbsolute file := by
    constructor
    · intro keepsRoot
      rw [Bool.eq_iff_iff]
      exact ⟨isAbsolute_of_liesBelow below, fun absolute =>
        (keepsRoot absolute).2⟩
    · intro same absolute
      exact ⟨below, same.trans absolute⟩
  have reached : Represents base file listed ↔
      essential (join base listed) = essential file := by
    constructor
    · exact fun represents => represents.below below
    · exact fun same => ⟨fun _ => same, fun outside => absurd below outside⟩
  rw [reached, essential_eq_iff, isAbsolute_join relative,
    significant_join_of_relative base relative,
    significant_eq_of_liesBelow below, List.append_cancel_left_eq, keeps]

theorem represents_iff_of_outside {base file : Bytes} {listed : Text}
    (outside : ¬LiesBelow base file) (relative : isAbsolute listed = false) :
    Represents base file listed ↔ KeepsRoot base file ∧
      significant listed = spelled base file := by
  have keeps : KeepsRoot base file ↔ false = isAbsolute file := by
    constructor
    · intro keepsRoot
      rw [eq_comm, Bool.eq_false_iff]
      exact fun absolute => outside (keepsRoot absolute).1
    · intro same absolute
      rw [← same] at absolute
      cases absolute
  have reached : Represents base file listed ↔
      essential listed = essential file := by
    constructor
    · exact fun represents => represents.outside outside
    · exact fun same => ⟨fun below => absurd below outside, fun _ => same⟩
  rw [reached, essential_eq_iff, relative, keeps,
    spelled_of_not_liesBelow outside]

/-- A relative path stands for a file exactly if the file keeps its root and
is listed by the segments of the path. -/
theorem represents_iff {base file : Bytes} {listed : Text}
    (relative : isAbsolute listed = false) :
    Represents base file listed ↔ KeepsRoot base file ∧
      significant listed = spelled base file := by
  by_cases below : LiesBelow base file
  · exact represents_iff_of_liesBelow below relative
  · exact represents_iff_of_outside below relative

theorem represents_toManifestFrom_iff (base file : Bytes) :
    Represents base file (toManifestFrom base file) ↔
      KeepsRoot base file ∧ Legible base file := by
  obtain ⟨relative, segments⟩ := significant_toManifestFrom base file
  rw [represents_iff relative, segments, map_respelled_spelled_iff]

/-- What stands for a file keeps its root, is listed by texts, and leaves no
file without segments. -/
theorem Represents.keepsRoot {base file : Bytes} {listed : Text}
    (represents : Represents base file listed)
    (relative : isAbsolute listed = false)
    (nonempty : significant listed ≠ []) :
    significant file ≠ [] ∧ KeepsRoot base file ∧ Legible base file := by
  obtain ⟨keepsRoot, same⟩ := (represents_iff relative).mp represents
  refine ⟨?_, keepsRoot, ?_⟩
  · rw [same] at nonempty
    intro none
    have suffix := spelled_isSuffix base file
    rw [none] at suffix
    exact nonempty (List.suffix_nil.mp suffix)
  · intro segment member
    rw [← same] at member
    exact wellFormed_of_mem_significant (Utf8.wellFormed_encode listed) member

end Path

/-- Other than the base itself, a scanned file is represented on the manifest
exactly if its path has a segment, its root is kept and its names are texts,
and two such files below the base, or two outside it, that are listed by one
path differ in nothing but the root and dots. -/
theorem manifestPaths_represent_iff (base : Bytes) (files : List Bytes) :
    (∀ file ∈ files, Path.components file ≠ Path.components base →
      ((∃ path ∈ manifestPaths base files,
          Path.Represents base file path) ↔
        Path.significant file ≠ [] ∧ Path.KeepsRoot base file ∧
          Path.Legible base file)) ∧
    ∀ path ∈ manifestPaths base files, ∀ file ∈ files, ∀ other ∈ files,
      Path.toManifestFrom base file = path →
      Path.toManifestFrom base other = path →
      (Path.LiesBelow base file ↔ Path.LiesBelow base other) →
      Path.Legible base file → Path.Legible base other →
      (Path.essential file = Path.essential other ↔
        Path.isAbsolute file = Path.isAbsolute other) := by
  constructor
  · intro file member notBase
    constructor
    · rintro ⟨path, listed, represents⟩
      obtain ⟨nonempty, scanned, _, rfl⟩ := mem_manifestPaths.mp listed
      obtain ⟨relative, segments⟩ :=
        Path.significant_toManifestFrom base scanned
      have spelled := Path.toManifestFrom_ne_nil_iff.mp nonempty
      have listedSegments : Path.significant
          (Path.toManifestFrom base scanned) ≠ [] := by
        simpa [segments] using spelled
      exact represents.keepsRoot relative listedSegments
    · rintro ⟨segments, keepsRoot, legible⟩
      have spelled := Path.spelled_ne_nil notBase segments
      have nonempty := Path.toManifestFrom_ne_nil_iff.mpr spelled
      have represents :=
        (Path.represents_toManifestFrom_iff base file).mpr
          ⟨keepsRoot, legible⟩
      exact ⟨_, mem_manifestPaths.mpr ⟨nonempty, file, member, rfl⟩,
        represents⟩
  · rintro path _ file _ other _ spelled otherSpelled alike legible
      otherLegible
    have same := Path.significant_eq_of_toManifestFrom alike legible
      otherLegible (spelled.trans otherSpelled.symm)
    rw [Path.essential_eq_iff, same, and_iff_left rfl]

/-- Outside a relative base, the root of an absolute path is not listed, so
that nothing on the manifest stands for the file, and it cannot be told from
the relative path. -/
theorem absolute_path_listed_without_root :
    let base : Bytes := "base"
    let file : Bytes := "/etc/x.js"
    let other : Text := "etc/x.js"
    ¬Path.LiesBelow base file ∧ ¬Path.LiesBelow base other ∧
      manifestPaths base [file, other] = [other] ∧
      ¬(∃ path ∈ manifestPaths base [file, other],
        Path.Represents base file path) ∧
      Path.toManifestFrom base file = Path.toManifestFrom base other ∧
      Path.essential file ≠ Path.essential other := by
  intro base file other
  have fileOutside : ¬Path.LiesBelow base file := by
    rw [Path.LiesBelow, ← List.isPrefixOf_iff_prefix]
    decide +kernel
  have otherOutside : ¬Path.LiesBelow base other := by
    rw [Path.LiesBelow, ← List.isPrefixOf_iff_prefix]
    decide +kernel
  have listed : manifestPaths base [file, other] = [other] := by
    decide +kernel
  have differ : Path.essential other ≠ Path.essential file := by
    decide +kernel
  refine ⟨fileOutside, otherOutside, listed, ?_, by decide +kernel,
    differ.symm⟩
  rintro ⟨path, member, represents⟩
  rw [listed, List.mem_singleton] at member
  rw [member] at represents
  exact differ (represents.outside fileOutside)

end AccessAudit
