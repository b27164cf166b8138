import AccessAudit.Proofs.Manifest.Line
import AccessAudit.Proofs.Text.Lines
import Mathlib.Data.List.Forall2

/-!
# The layout of a manifest

White space around a line never changes what the line says.  So a manifest
may end its lines either way, indent them and pad them, and may close its last
line or leave it open.
-/

namespace AccessAudit

namespace Text

/-- A text made of spaces and tabs. -/
def IsPadding (text : Text) : Prop :=
  ∀ c ∈ text, c = ' ' ∨ c = '\t'

/-- The line with padding at its start and at its end.  Where the line ends in
a carriage return, the padding at the end may stand on both sides of it. -/
inductive PaddedLine : Text → Text → Prop
  | around {before after : Text} (content : Text)
      (start : IsPadding before) (finish : IsPadding after) :
      PaddedLine content (before ++ (content ++ after))
  | aroundReturn {before after last : Text} (content : Text)
      (start : IsPadding before) (finish : IsPadding after)
      (final : IsPadding last) :
      PaddedLine (content ++ ['\r'])
        (before ++ (content ++ after) ++ '\r' :: last)

/-- The text with padding in any of its lines.  Nothing is put after the last
line feed, where there is no line. -/
inductive Padded : Text → Text → Prop
  | empty : Padded [] []
  | unfinished {last other : Text} (oneLine : '\n' ∉ last)
      (nonempty : last ≠ []) (padded : PaddedLine last other) :
      Padded last other
  | closed {first other rest more : Text} (oneLine : '\n' ∉ first)
      (padded : PaddedLine first other) (later : Padded rest more) :
      Padded (line first ++ rest) (line other ++ more)

/-- The text with a carriage return put in front of every line feed. -/
def withReturns (text : Text) : Text :=
  text.flatMap fun c => if c = '\n' then ['\r', '\n'] else [c]

theorem IsPadding.nil : IsPadding [] := by
  intro c member
  cases member

theorem IsPadding.blank {text : Text} (padding : IsPadding text) :
    ∀ c ∈ text, isWhiteSpace c = true := by
  intro c member
  rcases padding c member with rfl | rfl
  · decide
  · decide

theorem IsPadding.oneLine {text : Text} (padding : IsPadding text) :
    '\n' ∉ text := by
  intro member
  rcases padding '\n' member with same | same
  · cases same
  · cases same

theorem PaddedLine.oneLine {content other : Text}
    (padded : PaddedLine content other) (oneLine : '\n' ∉ content) :
    '\n' ∉ other := by
  cases padded with
  | around content start finish =>
      simp [start.oneLine, finish.oneLine, oneLine]
  | aroundReturn content start finish final =>
      have contentOneLine : '\n' ∉ content := fun member =>
        oneLine (List.mem_append_left _ member)
      simp [start.oneLine, finish.oneLine, final.oneLine, contentOneLine]

theorem PaddedLine.ne_nil {content other : Text}
    (padded : PaddedLine content other) (nonempty : content ≠ []) :
    other ≠ [] := by
  cases padded with
  | around => simp [nonempty]
  | aroundReturn => simp

theorem withReturns_of_not_mem {text : Text} (absent : '\n' ∉ text) :
    withReturns text = text := by
  rw [withReturns]
  induction text with
  | nil => rfl
  | cons c rest ih =>
      have different : c ≠ '\n' := by
        rintro rfl
        exact absent List.mem_cons_self
      have later := ih fun member => absent (List.mem_cons_of_mem c member)
      simp [different, later]

theorem withReturns_line_append {first : Text} (absent : '\n' ∉ first)
    (rest : Text) :
    withReturns (line first ++ rest) =
      line (first ++ ['\r']) ++ withReturns rest := by
  have start := withReturns_of_not_mem absent
  simp only [withReturns] at start ⊢
  simp [line, start]

end Text

/-- The arrow is no white space, so white space at the end of a line belongs to
its body. -/
theorem numbered_append_iff {raw after body : Text}
    (blank : ∀ c ∈ after, Text.isWhiteSpace c = true)
    (oneLine : '\n' ∉ after) :
    Numbered body (raw ++ after) ↔
      ∃ start, Numbered start raw ∧ body = start ++ after := by
  constructor
  · intro numbered
    generalize whole : raw ++ after = line at numbered
    cases numbered with
    | @intro space number spaces digits nonempty bodyOneLine =>
        rw [← List.append_assoc] at whole
        obtain ⟨start, rfl, rfl⟩ :=
          Text.exists_of_append_eq_append_cons (by decide) blank whole
        have startOneLine : '\n' ∉ start := fun member =>
          bodyOneLine (List.mem_append_left after member)
        refine ⟨start, ?_, rfl⟩
        rw [List.append_assoc]
        exact .intro spaces digits nonempty startOneLine
  · rintro ⟨start, numbered, rfl⟩
    cases numbered with
    | @intro space number spaces digits nonempty startOneLine =>
        have bodyOneLine : '\n' ∉ start ++ after := by
          simp [startOneLine, oneLine]
        simpa using Numbered.intro spaces digits nonempty bodyOneLine

theorem numberedBody?_append {raw after : Text}
    (blank : ∀ c ∈ after, Text.isWhiteSpace c = true)
    (oneLine : '\n' ∉ after) :
    numberedBody? (raw ++ after) = (numberedBody? raw).map (· ++ after) := by
  ext body
  rw [numberedBody?_eq_some_iff, numbered_append_iff blank oneLine,
    Option.map_eq_some_iff]
  simp only [numberedBody?_eq_some_iff, eq_comm]

theorem numberedBody?_blank_append {before raw : Text}
    (blank : ∀ c ∈ before, Text.isWhiteSpace c = true) :
    numberedBody? (before ++ raw) = numberedBody? raw := by
  simp only [numberedBody?, Text.trimStart,
    List.dropWhile_append_of_pos blank]

/-- Two lines say the same, under any number and in both modes. -/
def SaySame (raw other : Text) : Prop :=
  ∀ index mode, ManifestLine.parse index raw mode =
    ManifestLine.parse index other mode

namespace SaySame

theorem refl (raw : Text) : SaySame raw raw := fun _ _ => rfl

theorem symm {raw other : Text} (same : SaySame raw other) :
    SaySame other raw := fun index mode => (same index mode).symm

theorem trans {raw other third : Text} (first : SaySame raw other)
    (second : SaySame other third) : SaySame raw third :=
  fun index mode => (first index mode).trans (second index mode)

theorem append {after : Text} (raw : Text)
    (blank : ∀ c ∈ after, Text.isWhiteSpace c = true)
    (oneLine : '\n' ∉ after) : SaySame raw (raw ++ after) := by
  intro index mode
  have body : ∀ body, ManifestLine.ofBody index (body ++ after) mode =
      ManifestLine.ofBody index body mode := by
    intro body
    simp only [ManifestLine.ofBody, normalizePath,
      Text.trim_append_of_blank blank]
  simp only [ManifestLine.parse, numberedBody?_append blank oneLine,
    Text.trim_append_of_blank blank, body]
  cases numberedBody? raw with
  | none => rfl
  | some found => exact (body found).symm

theorem blank_append {before : Text} (raw : Text)
    (blank : ∀ c ∈ before, Text.isWhiteSpace c = true) :
    SaySame raw (before ++ raw) := by
  intro index mode
  simp only [ManifestLine.parse, numberedBody?_blank_append blank,
    ManifestLine.ofBody, normalizePath, Text.trim_blank_append blank]

theorem append_return {last : Text} (raw : Text)
    (padding : Text.IsPadding last) : SaySame raw (raw ++ '\r' :: last) := by
  apply append
  · intro c member
    rcases List.mem_cons.mp member with rfl | inPadding
    · decide
    · exact padding.blank c inPadding
  · simp [padding.oneLine]

theorem dropFinalReturn (raw : Text) :
    SaySame raw (Text.dropFinalReturn raw) := by
  unfold Text.dropFinalReturn
  split
  · next ends =>
      obtain ⟨front, rfl⟩ := List.isSuffixOf_iff_suffix.mp ends
      rw [List.dropLast_concat]
      exact (append_return front .nil).symm
  · exact refl raw

theorem padding {before after : Text} (raw : Text)
    (start : Text.IsPadding before) (finish : Text.IsPadding after) :
    SaySame raw (before ++ (raw ++ after)) :=
  (append raw finish.blank finish.oneLine).trans
    (blank_append _ start.blank)

theorem of_paddedLine {raw other : Text}
    (padded : Text.PaddedLine raw other) : SaySame raw other := by
  cases padded with
  | around content start finish => exact padding raw start finish
  | aroundReturn content start finish final =>
      have inner := padding content start finish
      exact (append_return content .nil).symm.trans
        (inner.trans (append_return _ final))

end SaySame

/-- Two texts have as many lines, and lines of one number say the same. -/
def SameLines (text other : Text) : Prop :=
  List.Forall₂ SaySame (Text.lines text) (Text.lines other)

theorem SameLines.closed {first other rest more : Text}
    (oneLine : '\n' ∉ first) (otherOneLine : '\n' ∉ other)
    (same : SaySame first other) (later : SameLines rest more) :
    SameLines (Text.line first ++ rest) (Text.line other ++ more) := by
  have cut := (SaySame.dropFinalReturn first).symm.trans
    (same.trans (SaySame.dropFinalReturn other))
  rw [SameLines, Text.lines_line_append oneLine,
    Text.lines_line_append otherOneLine]
  exact .cons cut later

theorem sameLines_withReturns (text : Text) :
    SameLines text (Text.withReturns text) := by
  induction text using Text.lineInduction with
  | empty => exact .nil
  | unfinished text absent nonempty =>
      rw [Text.withReturns_of_not_mem absent]
      exact List.forall₂_same.mpr fun raw _ => SaySame.refl raw
  | closed first rest absent ih =>
      rw [Text.withReturns_line_append absent]
      have returnOneLine : '\n' ∉ first ++ ['\r'] := by simp [absent]
      exact .closed absent returnOneLine (.append_return first .nil) ih

theorem sameLines_of_padded {text other : Text}
    (padded : Text.Padded text other) : SameLines text other := by
  induction padded with
  | empty => exact .nil
  | unfinished oneLine nonempty padded =>
      have otherOneLine := padded.oneLine oneLine
      rw [SameLines, Text.lines_of_not_mem oneLine nonempty,
        Text.lines_of_not_mem otherOneLine (padded.ne_nil nonempty)]
      exact .cons (.of_paddedLine padded) .nil
  | closed oneLine padded _ ih =>
      have otherOneLine := padded.oneLine oneLine
      exact .closed oneLine otherOneLine (.of_paddedLine padded) ih

theorem sameLines_append_lineFeed {text : Text} (nonempty : text ≠ [])
    (isOpen : text.getLast? ≠ some '\n') :
    SameLines text (text ++ ['\n']) := by
  induction text using Text.lineInduction with
  | empty => exact absurd rfl nonempty
  | unfinished text absent _ =>
      have closed : text ++ ['\n'] = Text.line text ++ [] := by
        simp [Text.line]
      rw [SameLines, closed, Text.lines_line_append absent,
        Text.lines_of_not_mem absent nonempty]
      exact .cons (SaySame.dropFinalReturn text) .nil
  | closed first rest absent ih =>
      cases rest with
      | nil => simp [Text.line] at isOpen
      | cons c others =>
          have later := ih (by simp) (by simpa [Text.line] using isOpen)
          rw [List.append_assoc]
          exact .closed absent absent (.refl first) later

namespace Manifest

theorem ofLines_congr {raws others : List Text}
    (same : List.Forall₂ SaySame raws others) (mode : ManifestMode)
    (index : Nat) :
    ofLines mode index raws = ofLines mode index others := by
  induction same generalizing index with
  | nil => rfl
  | cons first _ ih => simp only [ofLines, ih, first index mode]

/-- Manifests with the same lines are read alike. -/
theorem parse_eq_of_sameLines {text other : Text}
    (same : SameLines text other) (mode : ManifestMode) :
    parse text mode = parse other mode :=
  ofLines_congr same mode 1

/-- The reading of a manifest does not depend on how its lines end, on spaces
and tabs around them, and on a line feed after the last one. -/
theorem parse_ignores_layout (text : Text) (mode : ManifestMode) :
    parse (Text.withReturns text) mode = parse text mode ∧
    (∀ other, Text.Padded text other →
      parse other mode = parse text mode) ∧
    (text ≠ [] → text.getLast? ≠ some '\n' →
      parse (text ++ ['\n']) mode = parse text mode) := by
  refine ⟨?_, ?_, ?_⟩
  · exact (parse_eq_of_sameLines (sameLines_withReturns text) mode).symm
  · intro other padded
    exact (parse_eq_of_sameLines (sameLines_of_padded padded) mode).symm
  · intro nonempty isOpen
    have same := sameLines_append_lineFeed nonempty isOpen
    exact (parse_eq_of_sameLines same mode).symm

/-- Two padded lines, the first with padding on both sides of its carriage
return. -/
theorem parse_ignores_layout_of_two_lines :
    Text.Padded "1→a\r\n2→b".toList "\t1→a \r \n 2→b\t".toList ∧
    parse "\t1→a \r \n 2→b\t".toList .strict =
      parse "1→a\r\n2→b".toList .strict := by
  have space : Text.IsPadding [' '] := by simp [Text.IsPadding]
  have tab : Text.IsPadding ['\t'] := by simp [Text.IsPadding]
  have last : Text.Padded "2→b".toList " 2→b\t".toList :=
    .unfinished (by decide) (by decide)
      (.around "2→b".toList space tab)
  have both : Text.Padded "1→a\r\n2→b".toList
      "\t1→a \r \n 2→b\t".toList :=
    .closed (by decide) (.aroundReturn "1→a".toList tab space space) last
  exact ⟨both, (parse_ignores_layout _ .strict).2.1 _ both⟩

end Manifest

end AccessAudit
