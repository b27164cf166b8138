import AccessAudit.Proofs.Path.Encoding

/-!
# How paths are spelled in manifests

The significant segments of a path are those that are not idle.  A manifest
spells a path by some of its last significant segments, and `Tidy` paths have
no other segments behind their beginning.
-/

namespace AccessAudit

namespace Path

/-- The segments that count. -/
def significant (path : Bytes) : List Bytes :=
  (Text.pieces slash path).filter fun segment => !isIdle segment

/-- Behind its beginning the path has no idle segment. -/
def Tidy (path : Bytes) : Prop :=
  ∀ segment ∈ (split path).2, isIdle segment = false

instance (path : Bytes) : Decidable (Tidy path) :=
  inferInstanceAs
    (Decidable (∀ segment ∈ (split path).2, isIdle segment = false))

/-- The path ends in the text, and the text begins after a slash, if the path
is not the text itself. -/
inductive EndsIn (text : Bytes) : Bytes → Prop
  | whole : EndsIn text text
  | below (front : Bytes) : EndsIn text (front ++ slash :: text)

/-- A name that an entry of a directory can have. -/
structure ProperName (name : Bytes) : Prop where
  nonempty : name ≠ []
  noSlash : slash ∉ name
  notCurrent : name ≠ [dot]
  notParent : name ≠ [dot, dot]

theorem properName_iff {name : Bytes} :
    ProperName name ↔
      name ≠ [] ∧ slash ∉ name ∧ name ≠ [dot] ∧ name ≠ [dot, dot] :=
  ⟨fun ⟨nonempty, noSlash, notCurrent, notParent⟩ =>
      ⟨nonempty, noSlash, notCurrent, notParent⟩,
    fun ⟨nonempty, noSlash, notCurrent, notParent⟩ =>
      ⟨nonempty, noSlash, notCurrent, notParent⟩⟩

instance (name : Bytes) : Decidable (ProperName name) :=
  decidable_of_iff _ properName_iff.symm

theorem ProperName.notIdle {name : Bytes} (proper : ProperName name) :
    isIdle name = false := by
  have notCurrent := proper.notCurrent
  have nonempty := proper.nonempty
  simp [isIdle, nonempty, notCurrent]

theorem Head.filter_lead (head : Head) :
    head.lead.filter (fun segment => !isIdle segment) = [] := by
  cases head <;> decide

theorem significant_eq_filter_split (path : Bytes) :
    significant path = (split path).2.filter fun segment =>
      !isIdle segment := by
  by_cases nonempty : path = []
  · rw [nonempty]
    decide
  · rw [significant, pieces_eq_lead_append nonempty, List.filter_append,
      Head.filter_lead, List.nil_append]

theorem components_eq (path : Bytes) :
    components path = (split path).1.components ++
      (significant path).map ofSegment := by
  rw [significant_eq_filter_split]
  rfl

theorem not_mem_of_mem_significant {path segment : Bytes}
    (member : segment ∈ significant path) : slash ∉ segment :=
  Text.not_mem_of_mem_pieces (List.mem_filter.mp member).1

theorem wellFormed_of_mem_significant {path segment : Bytes}
    (wellFormed : Utf8.WellFormed path)
    (member : segment ∈ significant path) : Utf8.WellFormed segment :=
  wellFormed_of_mem_pieces wellFormed (List.mem_filter.mp member).1

theorem map_respelled_significant {path : Bytes}
    (wellFormed : Utf8.WellFormed path) :
    (significant path).map respelled = significant path := by
  rw [map_respelled_eq_self_iff]
  intro segment member
  exact wellFormed_of_mem_significant wellFormed member

theorem Tidy.significant_eq {path : Bytes} (tidy : Tidy path) :
    significant path = (split path).2 := by
  rw [significant_eq_filter_split, List.filter_eq_self]
  intro segment member
  simp [tidy segment member]

/-! ## Joining a name -/

theorem isAbsolute_of_proper {name : Bytes} (proper : ProperName name) :
    isAbsolute name = false := by
  rw [Bool.eq_false_iff]
  intro absolute
  obtain ⟨c, rest, rfl⟩ := List.exists_cons_of_ne_nil proper.nonempty
  rw [isAbsolute_cons] at absolute
  exact proper.noSlash (by simp [absolute])

theorem join_of_relative (base : Bytes) {path : Bytes}
    (relative : isAbsolute path = false) :
    (base = [] ∧ join base path = path) ∨
    (∃ front, base = front ++ [slash] ∧
      join base path = front ++ slash :: path) ∨
    (base ≠ [] ∧ join base path = base ++ slash :: path) := by
  rw [join, relative]
  by_cases empty : base = []
  · exact Or.inl ⟨empty, by simp [empty]⟩
  · cases ending : Text.endsWith base [slash] with
    | true =>
        obtain ⟨front, rfl⟩ := List.isSuffixOf_iff_suffix.mp ending
        exact Or.inr (Or.inl ⟨front, rfl, by simp⟩)
    | false => exact Or.inr (Or.inr ⟨empty, by simp [empty]⟩)

theorem join_of_proper (base : Bytes) {name : Bytes}
    (proper : ProperName name) :
    (base = [] ∧ join base name = name) ∨
    (∃ front, base = front ++ [slash] ∧
      join base name = front ++ slash :: name) ∨
    (base ≠ [] ∧ join base name = base ++ slash :: name) :=
  join_of_relative base (isAbsolute_of_proper proper)

/-- The segments of a relative path follow those of the path it is joined
to. -/
theorem significant_join_of_relative (base : Bytes) {path : Bytes}
    (relative : isAbsolute path = false) :
    significant (join base path) = significant base ++ significant path := by
  have append : ∀ front : Bytes, significant (front ++ slash :: path) =
      significant front ++ significant path := by
    intro front
    simp only [significant, Text.pieces_append_separator,
      List.filter_append]
  rcases join_of_relative base relative with
    ⟨rfl, same⟩ | ⟨front, rfl, same⟩ | ⟨_, same⟩
  · rw [same]
    rfl
  · have trailing : significant (front ++ [slash]) = significant front := by
      rw [significant, Text.pieces_append_separator, List.filter_append]
      exact List.append_nil _
    rw [same, append, trailing]
  · rw [same, append]

theorem significant_of_proper {name : Bytes} (proper : ProperName name) :
    significant name = [name] := by
  simp [significant, Text.pieces_of_not_mem proper.noSlash, proper.notIdle]

/-- A name that is joined to a path is one more significant segment. -/
theorem significant_join {base name : Bytes} (proper : ProperName name) :
    significant (join base name) = significant base ++ [name] := by
  rw [significant_join_of_relative base (isAbsolute_of_proper proper),
    significant_of_proper proper]

theorem significant_foldl_join {base : Bytes} {names : List Bytes}
    (proper : ∀ name ∈ names, ProperName name) :
    significant (names.foldl join base) = significant base ++ names := by
  induction names generalizing base with
  | nil => simp
  | cons name rest ih =>
      have first := proper name List.mem_cons_self
      rw [List.foldl_cons, ih fun other member =>
        proper other (List.mem_cons_of_mem name member),
        significant_join first, List.append_assoc, List.singleton_append]

/-- More pieces behind a path go to its segments. -/
theorem split_of_pieces {path longer : Bytes} {more : List Bytes}
    (nonempty : path ≠ [])
    (whole : Text.pieces slash longer = Text.pieces slash path ++ more) :
    split longer = ((split path).1, (split path).2 ++ more) := by
  cases cut : Text.pieces slash path with
  | nil => exact absurd cut (Text.pieces_ne_nil slash path)
  | cons first rest =>
      have notBlank : ¬(first = [] ∧ rest = []) := by
        rintro ⟨rfl, rfl⟩
        rw [← Text.joinWith_pieces slash path, cut] at nonempty
        exact nonempty rfl
      have longerNonempty : longer ≠ [] := by
        rintro rfl
        rw [cut] at whole
        simp only [Text.pieces, List.cons_append, List.cons.injEq,
          List.nil_eq, List.append_eq_nil_iff] at whole
        exact notBlank ⟨whole.1, whole.2.1⟩
      have absolute : isAbsolute longer = isAbsolute path := by
        rw [Bool.eq_iff_iff, isAbsolute_iff, isAbsolute_iff, whole, cut]
        cases rest with
        | nil =>
            have named : first ≠ [] := fun empty => notBlank ⟨empty, rfl⟩
            simp [named]
        | cons second others => simp
      rw [split, split, whole, cut]
      simp only [List.cons_append, absolute, List.isEmpty_iff, nonempty,
        longerNonempty, if_false]
      split
      · rfl
      · split
        · rfl
        · rfl

/-- A slash at the end leaves an empty segment. -/
theorem not_tidy_append_slash (front : Bytes) : ¬Tidy (front ++ [slash]) := by
  intro tidy
  have whole := pieces_eq_lead_append
    (show front ++ [slash] ≠ [] by simp)
  rw [Text.pieces_append_separator] at whole
  rw [Tidy] at tidy
  generalize split (front ++ [slash]) = parts at whole tidy
  obtain ⟨head, segments⟩ := parts
  have final : ([] : Bytes) ∈ segments := by
    cases cut : Text.pieces slash front with
    | nil => exact absurd cut (Text.pieces_ne_nil slash front)
    | cons first rest =>
        rw [cut, List.cons_append] at whole
        cases head with
        | root | current =>
            obtain ⟨_, rfl⟩ := List.cons.inj whole
            exact List.mem_append_right rest List.mem_cons_self
        | bare =>
            simp only [Head.lead, List.nil_append] at whole
            rw [← whole, ← List.cons_append]
            exact List.mem_append_right _ List.mem_cons_self
  cases tidy [] final

theorem join_ne_nil {base name : Bytes} (proper : ProperName name) :
    join base name ≠ [] := by
  rcases join_of_proper base proper with
    ⟨_, same⟩ | ⟨front, _, same⟩ | ⟨_, same⟩
  · rw [same]
    exact proper.nonempty
  · simp [same]
  · simp [same]

/-- A name goes to the end of a tidy path as it is. -/
theorem Tidy.split_join {base name : Bytes} (tidy : Tidy base)
    (nonempty : base ≠ []) (proper : ProperName name) :
    split (join base name) = ((split base).1, (split base).2 ++ [name]) := by
  apply split_of_pieces nonempty
  rcases join_of_proper base proper with
    ⟨empty, _⟩ | ⟨front, rfl, _⟩ | ⟨_, same⟩
  · exact absurd empty nonempty
  · exact absurd tidy (not_tidy_append_slash front)
  · rw [same, Text.pieces_append_separator,
      Text.pieces_of_not_mem proper.noSlash]

theorem Tidy.join {base name : Bytes} (tidy : Tidy base)
    (proper : ProperName name) : Tidy (join base name) := by
  intro segment member
  by_cases empty : base = []
  · have alone : Path.join base name = name := by
      simp [Path.join, empty, isAbsolute_of_proper proper]
    rw [alone, split, Text.pieces_of_not_mem proper.noSlash,
      isAbsolute_of_proper proper] at member
    have same : segment = name := by
      simpa [proper.notCurrent, proper.nonempty] using member
    rw [same]
    exact proper.notIdle
  · rw [tidy.split_join empty proper] at member
    rcases List.mem_append.mp member with before | here
    · exact tidy segment before
    · rw [List.mem_singleton.mp here]
      exact proper.notIdle

theorem Tidy.foldl_join {base : Bytes} {names : List Bytes}
    (tidy : Tidy base) (proper : ∀ name ∈ names, ProperName name) :
    Tidy (names.foldl Path.join base) := by
  induction names generalizing base with
  | nil => exact tidy
  | cons name rest ih =>
      exact ih (tidy.join (proper name List.mem_cons_self))
        fun other member => proper other (List.mem_cons_of_mem name member)

/-- Names behind a tidy path do not change how it begins. -/
theorem Tidy.head_foldl_join {base : Bytes} {names : List Bytes}
    (tidy : Tidy base) (nonempty : base ≠ [])
    (proper : ∀ name ∈ names, ProperName name) :
    (split (names.foldl Path.join base)).1 = (split base).1 ∧
      names.foldl Path.join base ≠ [] := by
  induction names generalizing base with
  | nil => exact ⟨rfl, nonempty⟩
  | cons name rest ih =>
      have first := proper name List.mem_cons_self
      rw [List.foldl_cons]
      have later := ih (tidy.join first) (join_ne_nil first)
        fun other member => proper other (List.mem_cons_of_mem name member)
      rw [tidy.split_join nonempty first] at later
      exact later

/-! ## Spelling -/

theorem manifestForm_map_ofSegment (segments : List Bytes) :
    manifestForm (segments.map ofSegment) = shown segments := by
  have dots : Utf8.decodeLossy [dot, dot] = ".." := by decide +kernel
  rw [manifestForm, shown, List.filterMap_map]
  congr 1
  induction segments with
  | nil => rfl
  | cons segment rest ih =>
      rw [List.filterMap_cons, ih, Function.comp_apply, ofSegment]
      by_cases parent : segment = [dot, dot]
      · simp [parent, dots]
      · simp [parent]

/-- The beginning of a path is not spelled in a manifest. -/
theorem manifestForm_drop_components (count : Nat) (path : Bytes) :
    ∃ fewer, manifestForm ((components path).drop count) =
      shown ((significant path).drop fewer) := by
  refine ⟨count - (split path).1.components.length, ?_⟩
  rw [components_eq, List.drop_append, ← List.map_drop,
    ← manifestForm_map_ofSegment]
  have unspelled : ∀ more, manifestForm
      ((split path).1.components.drop count ++ more) = manifestForm more := by
    intro more
    cases (split path).1 <;> cases count <;>
      simp [Head.components, manifestForm]
  exact unspelled _

theorem toManifestFrom_eq (base path : Bytes) :
    ∃ count, toManifestFrom base path =
      shown ((significant path).drop count) := by
  rw [toManifestFrom, componentsBelow?]
  split
  · exact manifestForm_drop_components _ path
  · exact manifestForm_drop_components 0 path

/-- A tidy path of a text ends in its spelling. -/
theorem Tidy.endsIn_toManifestFrom {path : Bytes} (tidy : Tidy path)
    (wellFormed : Utf8.WellFormed path) (base : Bytes)
    (spelled : toManifestFrom base path ≠ []) :
    EndsIn (toManifestFrom base path) path := by
  obtain ⟨count, spelling⟩ := toManifestFrom_eq base path
  rw [spelling] at spelled ⊢
  have encoded : Utf8.encode (shown ((significant path).drop count)) =
      Text.joinWith [slash] ((significant path).drop count) := by
    rw [encode_shown, List.map_drop, map_respelled_significant wellFormed]
  rw [encoded]
  have nonempty : path ≠ [] := by
    rintro rfl
    exact spelled (by simp [significant, Text.pieces, isIdle])
  have kept : (significant path).drop count ≠ [] := by
    intro none
    exact spelled (by rw [none, shown_nil])
  have whole : path = Text.joinWith [slash]
      ((split path).1.lead ++ (significant path).take count ++
        (significant path).drop count) := by
    rw [List.append_assoc, List.take_append_drop, tidy.significant_eq,
      ← pieces_eq_lead_append nonempty]
    exact (Text.joinWith_pieces slash path).symm
  by_cases all : (split path).1.lead ++ (significant path).take count = []
  · rw [all, List.nil_append] at whole
    rw [← whole]
    exact EndsIn.whole
  · rw [Text.joinWith_append all kept, List.append_assoc] at whole
    have below : ∀ front text : Bytes, path = front ++ ([slash] ++ text) →
        EndsIn text path := by
      rintro front text rfl
      exact .below front
    exact below _ _ whole

theorem manifestForm_components (path : Bytes) :
    manifestForm (components path) = shown (significant path) := by
  rw [components_eq, ← manifestForm_map_ofSegment]
  cases (split path).1 <;> rfl

/-- Segments never stand for the beginning of a path. -/
theorem not_mem_map_ofSegment {head : Head} {component : Component}
    (begins : component ∈ head.components) (segments : List Bytes) :
    component ∉ segments.map ofSegment := by
  intro member
  obtain ⟨segment, _, rfl⟩ := List.mem_map.mp member
  rw [ofSegment] at begins
  split at begins
  · cases head <;> simp [Head.components] at begins
  · cases head <;> simp [Head.components] at begins

/-- A path without dot or slash in front lies below no base that has one, so
it is spelled as it is written, if it is the path of a text. -/
theorem toManifestFrom_of_bare {base path : Bytes}
    (baseHead : (split base).1 ≠ .bare) (bare : (split path).1 = .bare)
    (tidy : Tidy path) (wellFormed : Utf8.WellFormed path)
    (nonempty : path ≠ []) :
    Utf8.encode (toManifestFrom base path) = path := by
  have outside : componentsBelow? base path = none := by
    rw [componentsBelow?, if_neg]
    intro below
    have inPath := (List.isPrefixOf_iff_prefix.mp below).subset
    obtain ⟨component, begins⟩ :
        ∃ component, component ∈ (split base).1.components := by
      cases head : (split base).1 with
      | root => exact ⟨.root, by simp [Head.components]⟩
      | current => exact ⟨.current, by simp [Head.components]⟩
      | bare => exact absurd head baseHead
    have member : component ∈ components base := by
      rw [components_eq]
      exact List.mem_append_left _ begins
    have pathMember := inPath member
    rw [components_eq path, bare] at pathMember
    exact not_mem_map_ofSegment begins _ pathMember
  rw [toManifestFrom, outside, Option.getD_none, manifestForm_components,
    encode_shown, map_respelled_significant wellFormed, tidy.significant_eq]
  have whole := pieces_eq_lead_append nonempty
  rw [bare, Head.lead, List.nil_append] at whole
  rw [← whole]
  exact Text.joinWith_pieces slash path

/-- From the current directory a path is spelled by all its significant
segments. -/
theorem toManifestFrom_current (path : Bytes) :
    toManifestFrom [dot] path = shown (significant path) := by
  have start : components [dot] = [.current] := by decide
  rw [toManifestFrom, componentsBelow?, start, ← manifestForm_components]
  split
  · next below =>
      obtain ⟨rest, whole⟩ := List.isPrefixOf_iff_prefix.mp below
      rw [← whole]
      rfl
  · rfl

theorem notIdle_of_mem_significant {path segment : Bytes}
    (member : segment ∈ significant path) : isIdle segment = false := by
  simpa using (List.mem_filter.mp member).2

/-- Taken from the current directory, segments that count are the pieces after
the dot. -/
theorem pieces_join_current {segments : List Bytes} (nonempty : segments ≠ [])
    (noSlash : ∀ segment ∈ segments, slash ∉ segment)
    (notIdle : ∀ segment ∈ segments, isIdle segment = false) :
    Text.pieces slash (join [dot] (Text.joinWith [slash] segments)) =
      [dot] :: segments := by
  have pieces : Text.pieces slash (Text.joinWith [slash] segments) = segments :=
    Text.pieces_joinWith nonempty noSlash
  have relative : isAbsolute (Text.joinWith [slash] segments) = false := by
    rw [Bool.eq_false_iff]
    intro absolute
    obtain ⟨second, rest, cut⟩ := isAbsolute_iff.mp absolute
    rw [pieces] at cut
    have first := notIdle [] (by rw [cut]; exact List.mem_cons_self)
    cases first
  have joined : join [dot] (Text.joinWith [slash] segments) =
      [dot] ++ slash :: Text.joinWith [slash] segments := by
    rw [join, relative]
    rfl
  rw [joined, Text.pieces_append_separator, pieces]
  rfl

end Path

theorem mem_insertAscending {path other : Text} {paths : List Text} :
    path ∈ insertAscending other paths ↔ path = other ∨ path ∈ paths := by
  induction paths with
  | nil => simp [insertAscending]
  | cons first rest ih =>
      rw [insertAscending]
      split
      · next same => simp [same]
      · split
        · simp
        · simp only [List.mem_cons, ih]
          exact or_left_comm

/-- The paths of a manifest are the spellings of the files that have one. -/
theorem mem_manifestPaths {base : Bytes} {path : Text} {files : List Bytes} :
    path ∈ manifestPaths base files ↔
      path ≠ [] ∧ ∃ file ∈ files, Path.toManifestFrom base file = path := by
  have inserted : ∀ paths : List Text,
      path ∈ paths.foldr insertAscending [] ↔ path ∈ paths := by
    intro paths
    induction paths with
    | nil => simp
    | cons first rest ih =>
        rw [List.foldr_cons, mem_insertAscending, ih, List.mem_cons]
  rw [manifestPaths, inserted, List.mem_filter, List.mem_map,
    decide_eq_true_eq, and_comm]

end AccessAudit
