import AccessAudit.Assessment
import AccessAudit.Proofs.Feature
import Mathlib.Logic.Basic

/-!
# The policy on contents

The rules for a category are asked in order, and an earlier one hides a later
one.  What comes out for the six categories whose content matters is a short
policy, which is stated here on the raw text.
-/

namespace AccessAudit

namespace Classification

theorem status_decide_endpoint {category : BackendCategory}
    (endpoint : category = .controller ∨ category = .routes)
    (features : Features) :
    ((backend category).decide features).verdict.status =
      if features.usesPageAccess then .compliant else .needsMigration := by
  obtain ⟨guarded, legacy, _⟩ := features
  rcases endpoint with rfl | rfl <;> cases guarded <;> cases legacy <;> rfl

theorem status_decide_socketController (features : Features) :
    ((backend .socketController).decide features).verdict.status =
      if features.usesPageAccess ||
          !features.callsRequireRole && features.checksPermission then
        .compliant
      else .needsMigration := by
  obtain ⟨guarded, legacy, _, checked, _⟩ := features
  cases guarded <;> cases legacy <;> cases checked <;> rfl

theorem status_decide_service (features : Features) :
    ((backend .service).decide features).verdict.status =
      if features.readsUserRole then .needsMigration else .notNeeded := by
  obtain ⟨_, _, reads, _⟩ := features
  cases reads <;> rfl

theorem status_decide_featureModule (features : Features) :
    ((frontend .featureModule).decide features).verdict.status =
      if features.decidesByRole then .needsMigration
      else if features.guardsControl || features.guardsPage then .compliant
      else .partialReview := by
  obtain ⟨_, _, _, _, control, page, wraps, compares, lists, shows, _⟩ :=
    features
  cases control <;> cases page <;> cases wraps <;> cases compares <;>
    cases lists <;> cases shows <;> rfl

theorem status_decide_modal (features : Features) :
    ((frontend .modal).decide features).verdict.status =
      if features.guardsControl then .compliant
      else if features.offersBareAction then .needsMigration
      else .partialReview := by
  obtain ⟨_, _, _, _, control, _, _, _, _, shows, submits, handles⟩ := features
  cases control <;> cases shows <;> cases submits <;> cases handles <;> rfl

end Classification

/-- The content offers a change: by the label of a button, or by a click
handler and wording of editing or deleting in any case of letters. -/
def OffersChange (text : Text) : Prop :=
  LabelsButton
      ["edit", "delete", "add", "create", "save", "update", "remove",
        "submit"] text ∨
    text.Holds ["onClick"] ∧ (Text.lowerCase text).Holds ["delete", "edit"]

/-- The content decides by fixed roles. -/
def DecidesByRole (text : Text) : Prop :=
  text.Holds
    ["withRoleCheck", "user?.role ===", "user.role ===",
      "publicMetadata?.role ===", "allowedRoles:", "['admin',", "['hr',"]

theorem Features.Describe.offersBareAction {features : Features}
    {text : Text} (describe : features.Describe text) :
    features.offersBareAction = true ↔ OffersChange text := by
  have labels := @labelsButton_append_iff Features.actionWords ["submit"] text
  rw [Features.offersBareAction, Bool.or_eq_true, Bool.or_eq_true,
    describe.showsActionButton, describe.showsSubmitButton, ← labels,
    describe.handlesInlineAction]
  rfl

theorem Features.Describe.decidesByRole {features : Features}
    {text : Text} (describe : features.Describe text) :
    features.decidesByRole = true ↔ DecidesByRole text := by
  rw [Features.decidesByRole, Bool.or_eq_true, Bool.or_eq_true,
    describe.wrapsRoleCheck, describe.comparesRole, describe.listsRoles,
    ← Text.holds_append_iff, ← Text.holds_append_iff]
  rfl

instance (text : Text) : Decidable (CallsRequireRole text) :=
  decidable_of_iff _ (Features.ofContent_describe text).callsRequireRole

instance (text : Text) : Decidable (OffersChange text) :=
  decidable_of_iff _ (Features.ofContent_describe text).offersBareAction

instance (text : Text) : Decidable (DecidesByRole text) :=
  decidable_of_iff _ (Features.ofContent_describe text).decidesByRole

/-- The status that files of a classification get for a content, if the
content matters for them. -/
def contentPolicy (text : Text) : Classification → Option Status
  | .backend .controller | .backend .routes =>
      some (if text.Holds ["requirePageAccess"] then .compliant
        else .needsMigration)
  | .backend .socketController =>
      some (if text.Holds ["requirePageAccess"] ∨
          ¬CallsRequireRole text ∧
            text.Holds ["hasPermission", "checkPermission"] then .compliant
        else .needsMigration)
  | .backend .service =>
      some (if text.Holds ["user.role", "user?.role"] then .needsMigration
        else .notNeeded)
  | .frontend .featureModule =>
      some (if DecidesByRole text then .needsMigration
        else if text.Holds
          ["PermissionButton", "usePageAccess", "can(", "hasPermission(",
            "PageAccessGuard"] then .compliant
        else .partialReview)
  | .frontend .modal =>
      some (if text.Holds
          ["PermissionButton", "usePageAccess", "can(", "hasPermission("]
          then .compliant
        else if OffersChange text then .needsMigration
        else .partialReview)
  | _ => none

/-- The policy is what the rules come to. -/
theorem contentPolicy_eq {features : Features} {text : Text}
    (describe : features.Describe text) (classification : Classification) :
    contentPolicy text classification =
      if classification.consultsContent then
        some (classification.decide features).verdict.status
      else none := by
  cases classification with
  | backend category =>
      cases category with
      | controller | routes =>
          rw [Classification.status_decide_endpoint (by simp)]
          exact congrArg some
            (if_congr describe.usesPageAccess.symm rfl rfl)
      | socketController =>
          rw [Classification.status_decide_socketController]
          refine congrArg some (if_congr ?_ rfl rfl)
          rw [Bool.or_eq_true, Bool.and_eq_true, Bool.not_eq_true',
            ← Bool.not_eq_true, describe.usesPageAccess,
            describe.callsRequireRole, describe.checksPermission]
      | service =>
          rw [Classification.status_decide_service]
          exact congrArg some (if_congr describe.readsUserRole.symm rfl rfl)
      | _ => rfl
  | frontend category =>
      cases category with
      | featureModule =>
          rw [Classification.status_decide_featureModule]
          refine congrArg some (if_congr describe.decidesByRole.symm rfl
            (if_congr ?_ rfl rfl))
          rw [Bool.or_eq_true, describe.guardsControl, describe.guardsPage,
            ← Text.holds_append_iff]
          rfl
      | modal =>
          rw [Classification.status_decide_modal]
          exact congrArg some (if_congr describe.guardsControl.symm rfl
            (if_congr describe.offersBareAction.symm rfl rfl))
      | _ => rfl
  | unknown => rfl

theorem verdict_assessContent_text {path : Text}
    (consults : (classify path).consultsContent = true) (text : Text) :
    (assessContent path (.text text)).verdict =
      ((classify path).decide (Features.ofContent text)).verdict := by
  simp [assessContent, consults]

/-- A file whose content matters has the status that the policy gives for the
content as it stands. -/
theorem content_policy_decides (path text : Text) :
    contentPolicy text (classify path) =
      if (classify path).consultsContent then
        some (assessContent path (.text text)).verdict.status
      else none := by
  rw [contentPolicy_eq (Features.ofContent_describe text)]
  by_cases consults : (classify path).consultsContent = true
  · rw [if_pos consults, if_pos consults,
      verdict_assessContent_text consults]
  · rw [if_neg consults, if_neg consults]

/-- A guard does not make up for a list of roles in a feature module. -/
example :
    contentPolicy "<PageAccessGuard/> allowedRoles: []"
      (classify "react/src/feature-module/hr.tsx") = some .needsMigration := by
  decide +kernel

end AccessAudit
