import AccessAudit.Proofs.Filter
import AccessAudit.Proofs.Text.Decoding
import AccessAudit.Proofs.Text.LetterCase
import AccessAudit.Proofs.Text.Pieces

/-!
# What a filter includes

A filter is told by the extensions and the exclude patterns it is built from:
by which of them there are, not by their order or number, and of extensions
not by dots in front or by the case of ASCII letters.  More patterns include
fewer files and more extensions more of them, except that no extension at all
includes files of every extension.
-/

namespace AccessAudit

/-- The extension is what follows the last dot of the file name, where
something stands in front of that dot. -/
inductive Path.HasExtension (path extension : Bytes) : Prop
  | intro {stem : Bytes}
      (named : Path.fileName? path = some (stem ++ dot :: extension))
      (nonempty : stem ≠ []) (noDot : dot ∉ extension)

theorem Path.extension?_eq_some_iff {path extension : Bytes} :
    Path.extension? path = some extension ↔
      Path.HasExtension path extension := by
  rw [Path.extension?]
  constructor
  · intro found
    split at found
    · cases found
    · next name named =>
        have whole := Text.joinWith_pieces dot name
        split at found
        · cases found
        · cases found
        · cases found
        · next notNil notSingle notHidden =>
            obtain ⟨front, cut⟩ := List.getLast?_eq_some_iff.mp found
            rw [cut] at whole notNil notSingle notHidden
            have frontNonempty : front ≠ [] := by
              rintro rfl
              exact notSingle extension rfl
            rw [Text.joinWith_append frontNonempty (List.cons_ne_nil _ _),
              List.append_assoc] at whole
            have noDots : ∀ part ∈ front ++ [extension], dot ∉ part := by
              rw [← cut]
              exact fun part => Text.not_mem_of_mem_pieces
            refine @Path.HasExtension.intro _ _ (Text.joinWith [dot] front)
              ?_ ?_ ?_
            · rw [named, ← whole]
              rfl
            · intro empty
              have pieces : Text.pieces dot (Text.joinWith [dot] front) =
                  front :=
                Text.pieces_joinWith frontNonempty fun part member =>
                  noDots part (List.mem_append_left _ member)
              rw [empty] at pieces
              rw [← pieces] at notHidden
              exact notHidden extension rfl
            · exact noDots extension
                (List.mem_append_right _ List.mem_cons_self)
  · rintro ⟨named, nonempty, noDot⟩
    next stem =>
    simp only [named]
    have cut : Text.pieces dot (stem ++ dot :: extension) =
        Text.pieces dot stem ++ [extension] := by
      rw [Text.pieces_append_separator, Text.pieces_of_not_mem noDot]
    have stemPieces := Text.joinWith_pieces dot stem
    rw [cut]
    cases pieces : Text.pieces dot stem with
    | nil => exact absurd pieces (Text.pieces_ne_nil dot stem)
    | cons first rest =>
        have named : ¬(first = [] ∧ rest = []) := by
          rintro ⟨rfl, rfl⟩
          rw [pieces] at stemPieces
          exact nonempty stemPieces.symm
        cases rest with
        | nil =>
            cases first with
            | nil => exact absurd ⟨rfl, rfl⟩ named
            | cons byte more => rfl
        | cons second others =>
            have last : (first :: second :: others ++ [extension]).getLast? =
                some extension := List.getLast?_concat
            cases others <;> exact last

namespace FileFilter

variable {extensions others texts : List Text} {filter : FileFilter}

/-- The extension of the path is a text and among these, or there are none. -/
def AdmittedBy (extensions : List Text) (path : Bytes) : Prop :=
  extensions = [] ∨ ∃ extension : Text, Path.HasExtension path extension ∧
    ∃ element ∈ extensions, Text.lowerCase extension =
      Text.lowerCase (element.dropWhile (· = '.'))

/-- The path matches none of these patterns. -/
def SparedBy (texts : List Text) (path : Bytes) : Prop :=
  ∀ text ∈ texts, ∀ pattern, Glob.parse text = .ok pattern →
    Glob.isMatch .ordinary pattern path = false

/-- Two spellings of one extension: dots in front and the case of ASCII
letters make no difference. -/
inductive SameExtension : Text → Text → Prop
  | dot (element : Text) : SameExtension element ('.' :: element)
  | letterCase {element other : Text}
      (same : element.map Char.toLower = other.map Char.toLower) :
      SameExtension element other
  | symm {element other : Text} (same : SameExtension element other) :
      SameExtension other element
  | trans {first second third : Text} (left : SameExtension first second)
      (right : SameExtension second third) : SameExtension first third

/-- The lists hold the same extensions. -/
structure SameExtensions (extensions others : List Text) : Prop where
  forward : ∀ element ∈ extensions,
    ∃ other ∈ others, SameExtension element other
  backward : ∀ other ∈ others,
    ∃ element ∈ extensions, SameExtension element other

/-- The texts are patterns, and the engine takes them all together. -/
def Runs [Glob.Engine] (texts : List Text) : Prop :=
  ∃ patterns, texts.map Glob.parse = patterns.map .ok ∧
    Glob.Engine.refusal? patterns = none

theorem exists_patterns_iff :
    (∃ patterns : List Glob.Pattern,
      texts.map Glob.parse = patterns.map .ok) ↔
      ∀ text ∈ texts, ∃ pattern, Glob.parse text = .ok pattern := by
  induction texts with
  | nil => exact iff_of_true ⟨[], rfl⟩ (by simp)
  | cons text rest ih =>
      rw [List.forall_mem_cons, ← ih]
      constructor
      · rintro ⟨patterns, read⟩
        cases patterns with
        | nil => cases read
        | cons pattern others =>
            rw [List.map_cons, List.map_cons, List.cons.injEq] at read
            exact ⟨⟨pattern, read.1⟩, others, read.2⟩
      · rintro ⟨⟨pattern, parsed⟩, others, read⟩
        exact ⟨pattern :: others, by rw [List.map_cons, parsed, read,
          List.map_cons]⟩

section

variable [Glob.Engine]

theorem exists_build_iff :
    (∃ filter, build extensions texts = .ok filter) ↔ Runs texts := by
  constructor
  · rintro ⟨filter, built⟩
    exact ⟨filter.excluded, (build_eq_ok_iff.mp built).2⟩
  · rintro ⟨patterns, read, taken⟩
    exact ⟨⟨_, patterns⟩, build_eq_ok_iff.mpr ⟨rfl, read, taken⟩⟩

/-- The first text that is no pattern is reported. -/
theorem build_eq_invalid_iff_append {text : Text} {problem : Glob.Problem} :
    build extensions texts = .error (.invalid text problem) ↔
      ∃ before after, texts = before ++ text :: after ∧
        (∀ earlier ∈ before, ∃ pattern, Glob.parse earlier = .ok pattern) ∧
        Glob.parse text = .error problem := by
  have isPattern : ∀ text, (Glob.parse text).isOk = true ↔
      ∃ pattern, Glob.parse text = .ok pattern := by
    intro text
    cases Glob.parse text <;> simp [Except.isOk, Except.toBool]
  rw [build_eq_invalid_iff, List.find?_eq_some_iff_append]
  constructor
  · rintro ⟨⟨_, before, after, rfl, earlier⟩, failed⟩
    refine ⟨before, after, rfl, ?_, failed⟩
    intro other member
    exact (isPattern other).mp (by simpa using earlier other member)
  · rintro ⟨before, after, rfl, earlier, failed⟩
    refine ⟨⟨?_, before, after, rfl, ?_⟩, failed⟩
    · rw [failed]
      rfl
    · intro other member
      simpa using (isPattern other).mpr (earlier other member)

/-- If there is a filter for some texts, then for others of the same members
only the engine can refuse one. -/
theorem refused_of_same_members {filter : FileFilter}
    {otherTexts : List Text} {problem : FilterProblem}
    (built : build extensions texts = .ok filter)
    (members : ∀ text, text ∈ texts ↔ text ∈ otherTexts)
    (failed : build others otherTexts = .error problem) :
    ∃ reason, problem = .refused reason := by
  have patterns := exists_patterns_iff.mp ⟨_, (build_eq_ok_iff.mp built).2.1⟩
  obtain ⟨otherPatterns, read⟩ := exists_patterns_iff.mpr
    fun text member => patterns text ((members text).mpr member)
  rw [build_of_patterns read] at failed
  split at failed
  · next reason refusal =>
      cases failed
      exact ⟨reason, rfl⟩
  · cases failed

theorem admitsExtension_iff
    (built : build extensions texts = .ok filter) (path : Bytes) :
    filter.admitsExtension path = true ↔ AdmittedBy extensions path := by
  rw [admitsExtension, (build_eq_ok_iff.mp built).1, AdmittedBy,
    Bool.or_eq_true, List.isEmpty_iff, List.map_eq_nil_iff]
  apply or_congr_right
  have read : ∀ extension : Text, Path.HasExtension path extension ↔
      (Path.extension? path).bind Utf8.decode? = some extension := by
    intro extension
    rw [← Path.extension?_eq_some_iff, Option.bind_eq_some_iff]
    simp only [Utf8.decode?_eq_some_iff, exists_eq_right']
  simp only [read]
  cases (Path.extension? path).bind Utf8.decode? with
  | none => simp
  | some extension => simp [normalizeExtension, eq_comm]

theorem isExcluded_eq_false_iff
    (built : build extensions texts = .ok filter) (path : Bytes) :
    filter.isExcluded path = false ↔ SparedBy texts path := by
  have read := (build_eq_ok_iff.mp built).2.1
  have members : ∀ pattern, pattern ∈ filter.excluded ↔
      ∃ text ∈ texts, Glob.parse text = .ok pattern := by
    intro pattern
    have image : (.ok pattern : Except Glob.Problem Glob.Pattern) ∈
          filter.excluded.map Except.ok ↔
        (.ok pattern : Except Glob.Problem Glob.Pattern) ∈
          texts.map Glob.parse := by rw [read]
    simpa using image
  rw [isExcluded, List.any_eq_false]
  constructor
  · intro spared text member pattern parsed
    have none := spared pattern ((members pattern).mpr ⟨text, member, parsed⟩)
    simpa using none
  · intro spared pattern member
    obtain ⟨text, isText, parsed⟩ := (members pattern).mp member
    simpa using spared text isText pattern parsed

theorem includes_iff (built : build extensions texts = .ok filter)
    (path : Bytes) :
    filter.includes path = true ↔
      AdmittedBy extensions path ∧ SparedBy texts path := by
  rw [includes, Bool.and_eq_true, Bool.not_eq_true',
    admitsExtension_iff built, isExcluded_eq_false_iff built]

end

/-! ## Changed lists -/

theorem map_toLower_dropWhile_dot (text : Text) :
    (text.dropWhile (· = '.')).map Char.toLower =
      (text.map Char.toLower).dropWhile (· = '.') := by
  have dot : ∀ c : Char, c.toLower = '.' ↔ c = '.' :=
    Text.toLower_eq_iff _ (by decide +kernel)
  simp only [List.dropWhile_map, Function.comp_def, dot]

theorem SameExtension.lowerCase_eq {element other : Text}
    (same : SameExtension element other) :
    Text.lowerCase (element.dropWhile (· = '.')) =
      Text.lowerCase (other.dropWhile (· = '.')) := by
  induction same with
  | dot element => rfl
  | letterCase same =>
      apply Text.lowerCase_congr
      rw [map_toLower_dropWhile_dot, same, map_toLower_dropWhile_dot]
  | symm _ ih => exact ih.symm
  | trans _ _ left right => exact left.trans right

theorem AdmittedBy.mono {path : Bytes} (nonempty : extensions ≠ [])
    (admitted : AdmittedBy extensions path)
    (contained : ∀ element ∈ extensions,
      ∃ other ∈ others, SameExtension element other) :
    AdmittedBy others path := by
  rcases admitted with empty | ⟨extension, has, element, member, same⟩
  · exact absurd empty nonempty
  · obtain ⟨other, isOther, alike⟩ := contained element member
    exact Or.inr ⟨extension, has, other, isOther,
      same.trans alike.lowerCase_eq⟩

theorem SameExtensions.admittedBy_iff
    (same : SameExtensions extensions others) (path : Bytes) :
    AdmittedBy extensions path ↔ AdmittedBy others path := by
  constructor
  · intro admitted
    by_cases empty : extensions = []
    · left
      rw [List.eq_nil_iff_forall_not_mem]
      intro other isOther
      obtain ⟨element, member, _⟩ := same.backward other isOther
      rw [empty] at member
      cases member
    · exact admitted.mono empty same.forward
  · intro admitted
    by_cases empty : others = []
    · left
      rw [List.eq_nil_iff_forall_not_mem]
      intro element member
      obtain ⟨other, isOther, _⟩ := same.forward element member
      rw [empty] at isOther
      cases isOther
    · apply admitted.mono empty
      intro other isOther
      obtain ⟨element, member, alike⟩ := same.backward other isOther
      exact ⟨element, member, alike.symm⟩

theorem SparedBy.anti {more : List Text} {path : Bytes}
    (spared : SparedBy more path)
    (contained : ∀ text ∈ texts, text ∈ more) : SparedBy texts path :=
  fun text member => spared text (contained text member)

end FileFilter

/-- Building a filter fails exactly if some text is no pattern, and then
reports the first such text, or if all are patterns and the engine refuses to
run them together.  A filter includes a path exactly if its extension is
listed, or no extension is, and no pattern matches it.  So all that counts of
the two lists is what they hold, one more pattern only excludes, and one more
extension only includes, unless it is the first. -/
theorem filter_includes_exactly [Glob.Engine]
    (extensions texts : List Text) :
    (∀ text problem, FileFilter.build extensions texts =
        .error (.invalid text problem) ↔
      ∃ before after, texts = before ++ text :: after ∧
        (∀ earlier ∈ before, ∃ pattern, Glob.parse earlier = .ok pattern) ∧
        Glob.parse text = .error problem) ∧
    (∀ reason, FileFilter.build extensions texts =
        .error (.refused reason) ↔
      ∃ patterns, texts.map Glob.parse = patterns.map .ok ∧
        Glob.Engine.refusal? patterns = some reason) ∧
    ((∃ filter, FileFilter.build extensions texts = .ok filter) ↔
      FileFilter.Runs texts) ∧
    ∀ filter, FileFilter.build extensions texts = .ok filter →
      (∀ path, filter.includes path = true ↔
        FileFilter.AdmittedBy extensions path ∧
          FileFilter.SparedBy texts path) ∧
      (∀ others otherTexts, FileFilter.SameExtensions extensions others →
        (∀ text, text ∈ texts ↔ text ∈ otherTexts) →
        (∀ other, FileFilter.build others otherTexts = .ok other →
          ∀ path, other.includes path = filter.includes path) ∧
        (∀ problem, FileFilter.build others otherTexts = .error problem →
          ∃ reason, problem = .refused reason)) ∧
      (∀ others, ∃ other, FileFilter.build others texts = .ok other) ∧
      (∀ text other,
        FileFilter.build extensions (texts ++ [text]) = .ok other →
        ∀ path, other.includes path = true → filter.includes path = true) ∧
      (extensions ≠ [] → ∀ element other,
        FileFilter.build (extensions ++ [element]) texts = .ok other →
        ∀ path, filter.includes path = true →
          other.includes path = true) := by
  refine ⟨fun _ _ => FileFilter.build_eq_invalid_iff_append,
    fun _ => FileFilter.build_eq_refused_iff, FileFilter.exists_build_iff,
    fun filter built => ?_⟩
  refine ⟨FileFilter.includes_iff built, ?_, ?_, ?_, ?_⟩
  · intro others otherTexts same members
    refine ⟨fun other otherBuilt path => ?_, fun problem =>
      FileFilter.refused_of_same_members built members⟩
    rw [Bool.eq_iff_iff, FileFilter.includes_iff otherBuilt,
      FileFilter.includes_iff built, same.admittedBy_iff]
    apply and_congr_right'
    simp only [FileFilter.SparedBy, members]
  · intro others
    have runs := FileFilter.exists_build_iff.mp ⟨filter, built⟩
    exact FileFilter.exists_build_iff.mpr runs
  · intro text other otherBuilt path included
    rw [FileFilter.includes_iff otherBuilt] at included
    rw [FileFilter.includes_iff built]
    exact ⟨included.1, included.2.anti fun earlier =>
      List.mem_append_left [text]⟩
  · intro nonempty element other otherBuilt path included
    rw [FileFilter.includes_iff built] at included
    rw [FileFilter.includes_iff otherBuilt]
    refine ⟨included.1.mono nonempty fun earlier member => ?_, included.2⟩
    exact ⟨earlier, List.mem_append_left [element] member, .letterCase rfl⟩

/-- The engine gives up at a first pattern that nests too deep. -/
theorem Glob.Engine.refusal?_standard {pattern : Pattern}
    {patterns : List Pattern} (deep : nestingLimit < nesting pattern) :
    Engine.standard.refusal? (pattern :: patterns) =
      some ("error parsing pattern 0" : Text) := by
  have first : (pattern :: patterns).findIdx?
      (fun pattern => nestingLimit < nesting pattern) = some 0 := by
    rw [List.findIdx?_cons, if_pos (by simpa using deep)]
  change Option.map _ (List.findIdx? _ _) = _
  rw [first]
  rfl

/-- A pattern of many groups, one in the other, is valid and yet refused. -/
theorem filter_refused_for_valid_pattern :
    letI : Glob.Engine := .standard
    let depth := 300
    let text : Text := Text.repeated depth '\x7b' ++ 'a' ::
      Text.repeated depth '\x7d'
    (∃ pattern, Glob.parse text = .ok pattern) ∧
      FileFilter.build [] [text] =
        .error (.refused "error parsing pattern 0") := by
  intro depth text
  let _ : Glob.Engine := .standard
  have nests : (Glob.parse text).toOption.map Glob.nesting =
      some (depth + 1) := by
    decide +kernel
  cases parsed : Glob.parse text with
  | error problem =>
      rw [parsed] at nests
      cases nests
  | ok pattern =>
      rw [parsed] at nests
      have deep : Glob.nesting pattern = depth + 1 :=
        Option.some.inj nests
      refine ⟨⟨pattern, rfl⟩, ?_⟩
      rw [FileFilter.build_eq_refused_iff]
      refine ⟨[pattern], by rw [List.map_cons, parsed]; rfl, ?_⟩
      exact Glob.Engine.refusal?_standard (by rw [deep]; decide)

end AccessAudit
