import AccessAudit.Feature

/-!
# What the features say of a content

A feature is found by a search.  Here is what each search finds, said without
the search: words that stand in the content, a call, or a button with a label.
-/

namespace AccessAudit

namespace Text

/-- One of the words stands in the text. -/
def Holds (text : Text) (words : List Text) : Prop :=
  ∃ word ∈ words, word <:+: text

instance (text : Text) (words : List Text) : Decidable (text.Holds words) :=
  decidable_of_iff _ (mentionsAny_iff text words)

theorem mentions_iff_holds {text word : Text} :
    mentions text word = true ↔ text.Holds [word] := by
  simp [mentions_iff, Holds]

theorem holds_append_iff {text : Text} {first second : List Text} :
    text.Holds (first ++ second) ↔ text.Holds first ∨ text.Holds second := by
  simp only [Holds, List.mem_append, or_and_right, exists_or]

/-- What is left after skipping begins with a character that is not
skipped. -/
theorem dropWhile_eq_cons_iff (skips : Char → Bool) {text rest : Text}
    {c : Char} (stops : skips c = false) :
    text.dropWhile skips = c :: rest ↔
      ∃ skipped, text = skipped ++ c :: rest ∧
        ∀ d ∈ skipped, skips d = true := by
  constructor
  · intro left
    refine ⟨text.takeWhile skips, ?_, ?_⟩
    · rw [← left, List.takeWhile_append_dropWhile]
    · intro d member
      exact List.all_eq_true.mp List.all_takeWhile d member
  · rintro ⟨skipped, rfl, all⟩
    rw [List.dropWhile_append_of_pos all, List.dropWhile_cons_of_neg]
    simp [stops]

theorem startsWith_iff {text lead : Text} :
    startsWith text lead = true ↔ ∃ rest, text = lead ++ rest := by
  rw [startsWith, List.isPrefixOf_iff_prefix]
  exact exists_congr fun rest => eq_comm

end Text

/-- The name `requireRole` stands before an opening parenthesis, with nothing
but white space between them. -/
def CallsRequireRole (text : Text) : Prop :=
  ∃ before space after : Text,
    text = before ++ "requireRole" ++ space ++ '(' :: after ∧
      ∀ c ∈ space, Text.isWhiteSpace c = true

/-- A button tag stands in the text, and right after the bracket that closes
it one of the lower-case words.  Cases of letters count for nothing. -/
def LabelsButton (words : List Text) (text : Text) : Prop :=
  ∃ before tag attributes label : Text,
    text = before ++ tag ++ attributes ++ '>' :: label ∧
      tag.map Text.foldToAscii = "<button" ∧ '>' ∉ attributes ∧
      ∃ word ∈ words, word <+: label.map Text.foldToAscii

theorem labelsButton_append_iff {first second : List Text} {text : Text} :
    LabelsButton (first ++ second) text ↔
      LabelsButton first text ∨ LabelsButton second text := by
  simp only [LabelsButton, List.mem_append, or_and_right, exists_or,
    and_or_left]

namespace Features

theorem beginsRoleCall_iff {text : Text} :
    beginsRoleCall text = true ↔
      ∃ space after : Text, text = "requireRole" ++ space ++ '(' :: after ∧
        ∀ c ∈ space, Text.isWhiteSpace c = true := by
  have opens : Text.isWhiteSpace '(' = false := by decide
  rw [beginsRoleCall, Bool.and_eq_true, Text.startsWith_iff,
    Text.startsWith_iff]
  constructor
  · rintro ⟨⟨rest, rfl⟩, after, opened⟩
    obtain ⟨space, rfl, all⟩ :=
      (Text.dropWhile_eq_cons_iff Text.isWhiteSpace opens).mp opened
    exact ⟨space, after, by simp, all⟩
  · rintro ⟨space, after, rfl, all⟩
    refine ⟨⟨space ++ '(' :: after, by simp⟩, after, ?_⟩
    exact (Text.dropWhile_eq_cons_iff Text.isWhiteSpace opens).mpr
      ⟨space, rfl, all⟩

theorem beginsButton_iff {words : List Text} {text : Text} :
    beginsButton words text = true ↔
      ∃ tag attributes label : Text,
        text = tag ++ attributes ++ '>' :: label ∧
          tag.map Text.foldToAscii = "<button" ∧ '>' ∉ attributes ∧
          ∃ word ∈ words, word <+: label.map Text.foldToAscii := by
  have ends : ('>' != '>') = false := by decide
  rw [beginsButton, Bool.and_eq_true, Text.startsWithFolded_iff]
  constructor
  · rintro ⟨opens, labelled⟩
    split at labelled
    · next bracket label rest =>
        have closes : bracket = '>' := by
          have stopped := List.head?_dropWhile_not (· != '>') (text.drop 7)
          rw [rest] at stopped
          simpa using stopped
        subst bracket
        obtain ⟨attributes, cut, apart⟩ :=
          (Text.dropWhile_eq_cons_iff (· != '>') ends).mp rest
        refine ⟨text.take 7, attributes, label, ?_, ?_, ?_, ?_⟩
        · rw [List.append_assoc, ← cut, List.take_append_drop]
        · rw [List.map_take]
          exact (List.prefix_iff_eq_take.mp opens).symm
        · intro member
          simpa using apart '>' member
        · obtain ⟨word, isWord, begins⟩ := List.any_eq_true.mp labelled
          exact ⟨word, isWord, (Text.startsWithFolded_iff _ _).mp begins⟩
    · cases labelled
  · rintro ⟨tag, attributes, label, rfl, isTag, closed, word, isWord, begins⟩
    -- The tag is as long as the part that the search skips.
    have length : tag.length = 7 := by
      simpa using congrArg List.length isTag
    have rest : ((tag ++ attributes ++ '>' :: label).drop 7).dropWhile
        (· != '>') = '>' :: label := by
      rw [List.append_assoc, List.drop_left' length,
        Text.dropWhile_eq_cons_iff (· != '>') ends]
      refine ⟨attributes, rfl, ?_⟩
      rintro c member
      have different : c ≠ '>' := fun same => closed (same ▸ member)
      simpa using different
    constructor
    · rw [List.append_assoc, List.map_append, isTag]
      exact List.prefix_append _ _
    · rw [rest]
      exact List.any_eq_true.mpr
        ⟨word, isWord, (Text.startsWithFolded_iff _ _).mpr begins⟩

theorem someSuffix_beginsRoleCall_iff {text : Text} :
    Text.someSuffix beginsRoleCall text = true ↔ CallsRequireRole text := by
  rw [Text.someSuffix_iff]
  constructor
  · rintro ⟨suffix, ⟨before, rfl⟩, begins⟩
    obtain ⟨space, after, rfl, all⟩ := beginsRoleCall_iff.mp begins
    exact ⟨before, space, after, by simp, all⟩
  · rintro ⟨before, space, after, rfl, all⟩
    refine ⟨"requireRole" ++ space ++ '(' :: after, ⟨before, by simp⟩, ?_⟩
    exact beginsRoleCall_iff.mpr ⟨space, after, rfl, all⟩

theorem someSuffix_beginsButton_iff {words : List Text} {text : Text} :
    Text.someSuffix (beginsButton words) text = true ↔
      LabelsButton words text := by
  rw [Text.someSuffix_iff]
  constructor
  · rintro ⟨suffix, ⟨before, rfl⟩, begins⟩
    obtain ⟨tag, attributes, label, rfl, rest⟩ := beginsButton_iff.mp begins
    exact ⟨before, tag, attributes, label, by simp, rest⟩
  · rintro ⟨before, tag, attributes, label, rfl, rest⟩
    refine ⟨tag ++ attributes ++ '>' :: label, ⟨before, by simp⟩, ?_⟩
    exact beginsButton_iff.mpr ⟨tag, attributes, label, rfl, rest⟩

/-- Every feature is true of exactly the contents in which its marks stand. -/
structure Describe (features : Features) (text : Text) : Prop where
  usesPageAccess : features.usesPageAccess = true ↔
    text.Holds ["requirePageAccess"]
  callsRequireRole : features.callsRequireRole = true ↔
    CallsRequireRole text
  readsUserRole : features.readsUserRole = true ↔
    text.Holds ["user.role", "user?.role"]
  checksPermission : features.checksPermission = true ↔
    text.Holds ["hasPermission", "checkPermission"]
  guardsControl : features.guardsControl = true ↔
    text.Holds ["PermissionButton", "usePageAccess", "can(", "hasPermission("]
  guardsPage : features.guardsPage = true ↔ text.Holds ["PageAccessGuard"]
  wrapsRoleCheck : features.wrapsRoleCheck = true ↔
    text.Holds ["withRoleCheck"]
  comparesRole : features.comparesRole = true ↔
    text.Holds
      ["user?.role ===", "user.role ===", "publicMetadata?.role ==="]
  listsRoles : features.listsRoles = true ↔
    text.Holds ["allowedRoles:", "['admin',", "['hr',"]
  showsActionButton : features.showsActionButton = true ↔
    LabelsButton actionWords text
  showsSubmitButton : features.showsSubmitButton = true ↔
    LabelsButton ["submit"] text
  handlesInlineAction : features.handlesInlineAction = true ↔
    text.Holds ["onClick"] ∧ (Text.lowerCase text).Holds ["delete", "edit"]

/-- Reading the role off a request is reading it off a user. -/
theorem holds_userRole_iff {text : Text} :
    text.Holds ["user.role", "req.user.role", "user?.role"] ↔
      text.Holds ["user.role", "user?.role"] := by
  have within : ("user.role" : Text) <:+: "req.user.role" :=
    ⟨"req.", [], by decide⟩
  constructor
  · rintro ⟨word, isWord, found⟩
    rcases List.mem_cons.mp isWord with rfl | others
    · exact ⟨_, by simp, found⟩
    · rcases List.mem_cons.mp others with rfl | last
      · exact ⟨_, List.mem_cons_self, within.trans found⟩
      · exact ⟨word, List.mem_cons_of_mem _ last, found⟩
  · rintro ⟨word, isWord, found⟩
    refine ⟨word, ?_, found⟩
    rcases List.mem_cons.mp isWord with rfl | last
    · exact List.mem_cons_self
    · exact List.mem_cons_of_mem _ (List.mem_cons_of_mem _ last)

theorem ofContent_describe (text : Text) : (ofContent text).Describe text where
  usesPageAccess := Text.mentions_iff_holds
  callsRequireRole := someSuffix_beginsRoleCall_iff
  readsUserRole := (Text.mentionsAny_iff _ _).trans holds_userRole_iff
  checksPermission := Text.mentionsAny_iff _ _
  guardsControl := Text.mentionsAny_iff _ _
  guardsPage := Text.mentions_iff_holds
  wrapsRoleCheck := Text.mentions_iff_holds
  comparesRole := Text.mentionsAny_iff _ _
  listsRoles := Text.mentionsAny_iff _ _
  showsActionButton := someSuffix_beginsButton_iff
  showsSubmitButton := someSuffix_beginsButton_iff
  handlesInlineAction := by
    rw [ofContent, Bool.and_eq_true, Text.mentions_iff_holds,
      Text.mentionsAny_iff]
    rfl

end Features

end AccessAudit
