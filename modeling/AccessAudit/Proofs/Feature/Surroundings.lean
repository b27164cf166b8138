import AccessAudit.Proofs.Feature
import AccessAudit.Proofs.Text.FinalSigma

/-!
# Features under surrounding text

Every feature is a mark somewhere in a content, so text around the content
leaves it in place.  For the wording of inline actions this rests on
lower-casing: the form of the whole differs from the form of a part at final
sigmas alone, and the words that are looked for have no sigma.
-/

namespace AccessAudit

/-- A property of texts that no surroundings undo. -/
def Text.Lasting (property : Text → Prop) : Prop :=
  ∀ part whole : Text, part <:+: whole → property part → property whole

namespace Text.Lasting

theorem and {first second : Text → Prop} (firstLasts : Lasting first)
    (secondLasts : Lasting second) :
    Lasting fun text => first text ∧ second text := by
  intro part whole within both
  obtain ⟨firstHolds, secondHolds⟩ := both
  exact ⟨firstLasts part whole within firstHolds,
    secondLasts part whole within secondHolds⟩

theorem holds (words : List Text) : Lasting (·.Holds words) := by
  intro part whole within found
  obtain ⟨word, isWord, stands⟩ := found
  exact ⟨word, isWord, stands.trans within⟩

theorem lowerCase_holds {words : List Text}
    (without : ∀ word ∈ words, word.WithoutSigma) :
    Lasting (·.lowerCase.Holds words) := by
  intro part whole within found
  obtain ⟨word, isWord, stands⟩ := found
  exact ⟨word, isWord,
    (without word isWord).infix_lowerCase_mono within stands⟩

theorem callsRequireRole : Lasting CallsRequireRole := by
  intro part whole within called
  obtain ⟨front, back, rfl⟩ := within
  obtain ⟨before, space, after, rfl, blank⟩ := called
  refine ⟨front ++ before, space, after ++ back, ?_, blank⟩
  simp only [List.append_assoc, List.cons_append]

theorem labelsButton (words : List Text) : Lasting (LabelsButton words) := by
  intro part whole within labelled
  obtain ⟨front, back, rfl⟩ := within
  obtain ⟨before, tag, attributes, label, rfl, isTag, closed, word, isWord,
    begins⟩ := labelled
  -- The bracket that closes the tag stays; only the label grows, at its end.
  refine ⟨front ++ before, tag, attributes, label ++ back, ?_, isTag, closed,
    word, isWord, ?_⟩
  · simp only [List.append_assoc, List.cons_append]
  · rw [List.map_append]
    exact begins.trans (List.prefix_append _ _)

/-- A feature that says whether a lasting property holds is never taken
away. -/
theorem keeps {property : Text → Prop} {part whole : Text}
    {found foundLater : Bool} (lasts : Lasting property)
    (within : part <:+: whole) (here : found = true ↔ property part)
    (there : foundLater = true ↔ property whole) (isFound : found = true) :
    foundLater = true := by
  apply there.mpr
  apply lasts part whole within
  exact here.mp isFound

end Text.Lasting

namespace Features

/-- Every feature that is true here is true later. -/
structure KeptIn (features later : Features) : Prop where
  usesPageAccess : features.usesPageAccess = true →
    later.usesPageAccess = true
  callsRequireRole : features.callsRequireRole = true →
    later.callsRequireRole = true
  readsUserRole : features.readsUserRole = true →
    later.readsUserRole = true
  checksPermission : features.checksPermission = true →
    later.checksPermission = true
  guardsControl : features.guardsControl = true →
    later.guardsControl = true
  guardsPage : features.guardsPage = true → later.guardsPage = true
  wrapsRoleCheck : features.wrapsRoleCheck = true →
    later.wrapsRoleCheck = true
  comparesRole : features.comparesRole = true → later.comparesRole = true
  listsRoles : features.listsRoles = true → later.listsRoles = true
  showsActionButton : features.showsActionButton = true →
    later.showsActionButton = true
  showsSubmitButton : features.showsSubmitButton = true →
    later.showsSubmitButton = true
  handlesInlineAction : features.handlesInlineAction = true →
    later.handlesInlineAction = true

theorem lasting_inlineAction : Text.Lasting fun text =>
    text.Holds ["onClick"] ∧ text.lowerCase.Holds ["delete", "edit"] := by
  have without : ∀ word ∈ (["delete", "edit"] : List Text),
      word.WithoutSigma := by decide
  exact (Text.Lasting.holds _).and (Text.Lasting.lowerCase_holds without)

/-- What is found in a part of a content is found in all of it. -/
theorem Describe.keptIn {features later : Features} {part whole : Text}
    (described : features.Describe part)
    (describedLater : later.Describe whole) (within : part <:+: whole) :
    features.KeptIn later where
  usesPageAccess := (Text.Lasting.holds _).keeps within
    described.usesPageAccess describedLater.usesPageAccess
  callsRequireRole := Text.Lasting.callsRequireRole.keeps within
    described.callsRequireRole describedLater.callsRequireRole
  readsUserRole := (Text.Lasting.holds _).keeps within
    described.readsUserRole describedLater.readsUserRole
  checksPermission := (Text.Lasting.holds _).keeps within
    described.checksPermission describedLater.checksPermission
  guardsControl := (Text.Lasting.holds _).keeps within
    described.guardsControl describedLater.guardsControl
  guardsPage := (Text.Lasting.holds _).keeps within
    described.guardsPage describedLater.guardsPage
  wrapsRoleCheck := (Text.Lasting.holds _).keeps within
    described.wrapsRoleCheck describedLater.wrapsRoleCheck
  comparesRole := (Text.Lasting.holds _).keeps within
    described.comparesRole describedLater.comparesRole
  listsRoles := (Text.Lasting.holds _).keeps within
    described.listsRoles describedLater.listsRoles
  showsActionButton := (Text.Lasting.labelsButton _).keeps within
    described.showsActionButton describedLater.showsActionButton
  showsSubmitButton := (Text.Lasting.labelsButton _).keeps within
    described.showsSubmitButton describedLater.showsSubmitButton
  handlesInlineAction := lasting_inlineAction.keeps within
    described.handlesInlineAction describedLater.handlesInlineAction

end Features

/-- No text before or behind a content takes one of its features away. -/
theorem surroundings_keep_features (before content after : Text) :
    (Features.ofContent content).KeptIn
      (Features.ofContent (before ++ content ++ after)) := by
  have within : content <:+: before ++ content ++ after :=
    List.infix_append before content after
  have described := Features.ofContent_describe content
  have describedLater :=
    Features.ofContent_describe (before ++ content ++ after)
  exact described.keptIn describedLater within

end AccessAudit
