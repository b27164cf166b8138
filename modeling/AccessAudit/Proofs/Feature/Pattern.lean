import AccessAudit.Proofs.Feature
import AccessAudit.Proofs.Text.CaseFolding

/-!
# Features as patterns

Three features look for a pattern anywhere in a text.  Patterns are built from
classes of characters, and what a pattern matches is a relation that knows
nothing of searching.  The searches find exactly the texts with a match: no
start that fails, and no start inside an earlier one, hides a later match.
-/

namespace AccessAudit

/-- A pattern of texts. -/
inductive Pattern
  | empty
  | never
  | one (accepts : Char → Prop)
  | seq (first second : Pattern)
  | either (first second : Pattern)
  | many (repeated : Pattern)

namespace Pattern

/-- The text as a whole has the pattern. -/
inductive Matches : Pattern → Text → Prop
  | empty : Matches .empty []
  | one {accepts : Char → Prop} {c : Char} (accepted : accepts c) :
      Matches (.one accepts) [c]
  | seq {first second : Pattern} {front back : Text}
      (frontMatches : Matches first front)
      (backMatches : Matches second back) :
      Matches (.seq first second) (front ++ back)
  | left {first second : Pattern} {text : Text}
      (matched : Matches first text) : Matches (.either first second) text
  | right {first second : Pattern} {text : Text}
      (matched : Matches second text) : Matches (.either first second) text
  | stop {repeated : Pattern} : Matches (.many repeated) []
  | again {repeated : Pattern} {front back : Text}
      (frontMatches : Matches repeated front)
      (backMatches : Matches (.many repeated) back) :
      Matches (.many repeated) (front ++ back)

/-- Some part of the text has the pattern. -/
def OccursIn (pattern : Pattern) (text : Text) : Prop :=
  ∃ before found after : Text,
    text = before ++ found ++ after ∧ pattern.Matches found

/-- Every letter of a word in turn, in one of its variants. -/
def spelled (variants : Char → List Char) : Text → Pattern
  | [] => .empty
  | letter :: rest =>
      .seq (.one (· ∈ variants letter)) (spelled variants rest)

/-- One of the words, up to case. -/
def oneOf : List Text → Pattern
  | [] => .never
  | word :: rest => .either (spelled Text.caseVariants word) (oneOf rest)

/-- A call of `requireRole`. -/
def roleCall : Pattern :=
  .seq (spelled ([·]) "requireRole")
    (.seq (.many (.one (Text.isWhiteSpace · = true))) (spelled ([·]) ['(']))

/-- A button tag with one of the words behind it, up to case. -/
def labelledButton (words : List Text) : Pattern :=
  .seq (spelled Text.caseVariants "<Button")
    (.seq (.many (.one (· ≠ '>')))
      (.seq (spelled Text.caseVariants ['>']) (oneOf words)))

theorem matches_one_iff {accepts : Char → Prop} {text : Text} :
    Matches (.one accepts) text ↔ ∃ c, text = [c] ∧ accepts c := by
  constructor
  · rintro ⟨⟩
    next c accepted => exact ⟨c, rfl, accepted⟩
  · rintro ⟨c, rfl, accepted⟩
    exact .one accepted

theorem matches_seq_iff {first second : Pattern} {text : Text} :
    Matches (.seq first second) text ↔
      ∃ front back : Text, text = front ++ back ∧
        Matches first front ∧ Matches second back := by
  constructor
  · intro matched
    cases matched with
    | seq frontMatches backMatches =>
        exact ⟨_, _, rfl, frontMatches, backMatches⟩
  · rintro ⟨front, back, rfl, frontMatches, backMatches⟩
    exact .seq frontMatches backMatches

theorem matches_either_iff {first second : Pattern} {text : Text} :
    Matches (.either first second) text ↔
      Matches first text ∨ Matches second text := by
  constructor
  · intro matched
    cases matched with
    | left matched => exact .inl matched
    | right matched => exact .inr matched
  · rintro (matched | matched)
    · exact .left matched
    · exact .right matched

/-- A run of accepted characters. -/
theorem matches_many_one_iff {accepts : Char → Prop} {text : Text} :
    Matches (.many (.one accepts)) text ↔ ∀ c ∈ text, accepts c := by
  constructor
  · intro matched
    generalize whole : Pattern.many (.one accepts) = pattern at matched
    induction matched with
    | stop => exact List.forall_mem_nil _
    | again frontMatches backMatches _ backIH =>
        cases whole
        obtain ⟨c, rfl, accepted⟩ := matches_one_iff.mp frontMatches
        exact List.forall_mem_cons.mpr ⟨accepted, backIH rfl⟩
    | _ => cases whole
  · intro all
    induction text with
    | nil => exact .stop
    | cons c rest ih =>
        obtain ⟨here, later⟩ := List.forall_mem_cons.mp all
        exact .again (.one here) (ih later)

theorem matches_spelled_iff {variants : Char → List Char}
    {word text : Text} :
    Matches (spelled variants word) text ↔
      List.Forall₂ (fun c letter => c ∈ variants letter) text word := by
  induction word generalizing text with
  | nil =>
      rw [List.forall₂_nil_right_iff]
      constructor
      · rintro ⟨⟩
        rfl
      · rintro rfl
        exact .empty
  | cons letter rest ih =>
      rw [spelled, matches_seq_iff, List.forall₂_cons_right_iff]
      constructor
      · rintro ⟨front, back, rfl, frontMatches, backMatches⟩
        obtain ⟨c, rfl, variant⟩ := matches_one_iff.mp frontMatches
        exact ⟨c, back, variant, ih.mp backMatches, rfl⟩
      · rintro ⟨c, back, variant, spelling, rfl⟩
        exact ⟨[c], back, rfl, .one variant, ih.mpr spelling⟩

theorem matches_spelled_exactly_iff {word text : Text} :
    Matches (spelled ([·]) word) text ↔ text = word := by
  simp only [matches_spelled_iff, List.mem_singleton, List.forall₂_eq_eq_eq]

theorem matches_oneOf_iff {words : List Text} {text : Text} :
    Matches (oneOf words) text ↔ ∃ word ∈ words, Text.Spells text word := by
  induction words with
  | nil =>
      constructor
      · rintro ⟨⟩
      · rintro ⟨_, member, _⟩
        cases member
  | cons word rest ih =>
      rw [oneOf, matches_either_iff, ih, matches_spelled_iff]
      simp only [List.mem_cons, exists_eq_or_imp, Text.Spells]

end Pattern

theorem roleCall_occursIn_iff {text : Text} :
    Pattern.roleCall.OccursIn text ↔ CallsRequireRole text := by
  simp only [Pattern.OccursIn, Pattern.roleCall, Pattern.matches_seq_iff,
    Pattern.matches_spelled_exactly_iff, Pattern.matches_many_one_iff]
  constructor
  · rintro ⟨before, _, after, rfl, _, _, rfl, rfl, space, _, rfl, blank, rfl⟩
    exact ⟨before, space, after, by simp, blank⟩
  · rintro ⟨before, space, after, rfl, blank⟩
    exact ⟨before, "requireRole" ++ (space ++ ['(']), after, by simp, _, _,
      rfl, rfl, space, _, rfl, blank, rfl⟩

/-- A button tag stands in the text, and what follows the first bracket behind
it begins with one of the words.  Cases of letters count for nothing. -/
def ShowsButton (words : List Text) (text : Text) : Prop :=
  ∃ before tag attributes label after : Text,
    text = before ++ tag ++ attributes ++ '>' :: (label ++ after) ∧
      Text.Spells tag "<Button" ∧ '>' ∉ attributes ∧
      ∃ word ∈ words, Text.Spells label word

theorem spells_bracket_iff {closing : Text} :
    Text.Spells closing ['>'] ↔ closing = ['>'] := by
  have variants : Text.caseVariants '>' = ['>', '>'] := by decide
  rw [Text.Spells]
  constructor
  · intro spells
    obtain ⟨c, rest, variant, nothing, rfl⟩ :=
      List.forall₂_cons_right_iff.mp spells
    obtain rfl := List.forall₂_nil_right_iff.mp nothing
    simpa [variants] using variant
  · rintro rfl
    exact .cons (by decide) .nil

theorem labelledButton_occursIn_iff {words : List Text} {text : Text} :
    (Pattern.labelledButton words).OccursIn text ↔
      ShowsButton words text := by
  have noBracket : ∀ attributes : Text,
      (∀ c ∈ attributes, c ≠ '>') ↔ '>' ∉ attributes :=
    fun _ => List.forall_mem_ne'
  simp only [Pattern.OccursIn, Pattern.labelledButton,
    Pattern.matches_seq_iff, Pattern.matches_spelled_iff,
    Pattern.matches_many_one_iff, Pattern.matches_oneOf_iff]
  constructor
  · rintro ⟨before, _, after, rfl, tag, _, rfl, isTag, attributes, _, rfl,
      unclosed, closing, label, rfl, closes, labelled⟩
    obtain rfl := spells_bracket_iff.mp closes
    exact ⟨before, tag, attributes, label, after, by simp, isTag,
      (noBracket attributes).mp unclosed, labelled⟩
  · rintro ⟨before, tag, attributes, label, after, rfl, isTag, unclosed,
      labelled⟩
    exact ⟨before, tag ++ (attributes ++ (['>'] ++ label)), after, by simp,
      tag, _, rfl, isTag, attributes, _, rfl,
      (noBracket attributes).mpr unclosed, ['>'], label, rfl,
      spells_bracket_iff.mpr rfl, labelled⟩

/-- Folded words are found exactly where they are spelled in some case. -/
theorem labelsButton_iff {words small : List Text} {text : Text}
    (ascii : ∀ word ∈ words, word.InAscii)
    (lowered : small = words.map (·.map Char.toLower)) :
    LabelsButton small text ↔ ShowsButton words text := by
  have tagAscii : Text.InAscii "<Button" := by decide +kernel
  have isTag : ∀ tag : Text, tag.map Text.foldToAscii = "<button" ↔
      Text.Spells tag "<Button" :=
    fun _ => (Text.spells_iff tagAscii).symm
  subst lowered
  constructor
  · rintro ⟨before, tag, attributes, label, rfl, folded, unclosed, _, isWord,
      begins⟩
    obtain ⟨word, member, rfl⟩ := List.mem_map.mp isWord
    obtain ⟨spelling, after, rfl, spells⟩ :=
      (Text.exists_spells_append_iff (ascii word member)).mpr begins
    exact ⟨before, tag, attributes, spelling, after, rfl,
      (isTag tag).mp folded, unclosed, word, member, spells⟩
  · rintro ⟨before, tag, attributes, spelling, after, rfl, spellsTag, unclosed,
      word, member, spells⟩
    exact ⟨before, tag, attributes, spelling ++ after, rfl,
      (isTag tag).mpr spellsTag, unclosed, _, List.mem_map_of_mem member,
      (Text.exists_spells_append_iff (ascii word member)).mp
        ⟨spelling, after, rfl, spells⟩⟩

/-- The labels of buttons that change something. -/
def actionLabels : List Text :=
  ["Edit", "Delete", "Add", "Create", "Save", "Update", "Remove"]

/-- Three features are true of exactly the texts in which a call, a button that
changes something or a button that submits stands, and that is where their
patterns match some part of the text. -/
theorem pattern_features_iff (text : Text) :
    let features := Features.ofContent text
    (features.callsRequireRole = true ↔
      ∃ before space after : Text,
        text = before ++ "requireRole" ++ space ++ '(' :: after ∧
          ∀ c ∈ space, Text.isWhiteSpace c = true) ∧
    (features.showsActionButton = true ↔ ShowsButton actionLabels text) ∧
    (features.showsSubmitButton = true ↔ ShowsButton ["Submit"] text) ∧
    (features.callsRequireRole = true ↔ Pattern.roleCall.OccursIn text) ∧
    (features.showsActionButton = true ↔
      (Pattern.labelledButton actionLabels).OccursIn text) ∧
    (features.showsSubmitButton = true ↔
      (Pattern.labelledButton ["Submit"]).OccursIn text) := by
  intro features
  have described := Features.ofContent_describe text
  have action : features.showsActionButton = true ↔
      ShowsButton actionLabels text :=
    described.showsActionButton.trans (labelsButton_iff (by decide +kernel) rfl)
  have submit : features.showsSubmitButton = true ↔
      ShowsButton ["Submit"] text :=
    described.showsSubmitButton.trans (labelsButton_iff (by decide +kernel) rfl)
  exact ⟨described.callsRequireRole, action, submit,
    described.callsRequireRole.trans roleCall_occursIn_iff.symm,
    action.trans labelledButton_occursIn_iff.symm,
    submit.trans labelledButton_occursIn_iff.symm⟩

/-- An earlier tag without a label hides no later one. -/
example : (Features.ofContent
    "<button <Button\n type=x>ok<BUTTON\n>ſubmit".toList).showsSubmitButton =
      true := by
  decide +kernel

end AccessAudit
