import AccessAudit.Category
import AccessAudit.Rule.Table

/-!
# Rules for frontend files
-/

namespace AccessAudit

/-- Does the content decide by fixed roles in one of the three ways that are
looked for? -/
def Features.decidesByRole (features : Features) : Bool :=
  features.wrapsRoleCheck || features.comparesRole || features.listsRoles

/-- Does the content offer a change without a guarded control? -/
def Features.offersBareAction (features : Features) : Bool :=
  features.showsActionButton || features.showsSubmitButton ||
    features.handlesInlineAction

def frontendRules : RuleTable FrontendCategory where
  rules :=
    [ { name := "auth-page"
        applies := fun c _ => c == .authPage
        outcome := .settled .notNeeded "Auth/public page - no RBAC needed" },
      { name := "ui-demo"
        applies := fun c _ => c == .uiDemo
        outcome :=
          .settled .notNeeded "UI Interface demo page - no RBAC needed" },
      { name := "sidebar-menu"
        applies := fun c _ => c == .dataJson .sidebarMenu
        outcome :=
          { status := .needsMigration
            note := "Hardcoded role-based sidebar menu filtering"
            issue :=
              "Uses switch statement with hardcoded roles " ++
              "(superadmin, hr, admin, etc.)"
            plan :=
              "Replace with permission-based filtering using " ++
              "PermissionContext" } },
      { name := "horizontal-sidebar"
        applies := fun c _ => c == .dataJson .horizontalSidebar
        outcome :=
          { status := .needsMigration
            note := "Hardcoded role-based horizontal menu filtering"
            issue := "Uses roles: [] arrays with hardcoded role values"
            plan := "Replace with permission-based filtering" } },
      { name := "route-definitions"
        applies := fun c _ => c == .dataJson .routeDefinitions
        outcome :=
          .settled .notNeeded "Route definitions file - no RBAC needed" },
      { name := "static-data"
        applies := fun c _ => c == .dataJson .static
        outcome := .settled .notNeeded "Static data file" },
      { name := "legacy-role-hoc"
        applies := fun c _ => c == .router .legacyRoleHoc
        outcome :=
          { status := .needsMigration
            note := "Legacy role-based route protection HOC"
            issue := "withRoleCheck uses hardcoded roles instead of permissions"
            plan := "Replace with PageAccessGuard or usePageAccess hook" } },
      { name := "router-configuration"
        applies := fun c _ => c == .router .configuration
        outcome := .settled .notNeeded "Router configuration file" },
      { name := "router-utility"
        applies := fun c _ => c == .router .utility
        outcome := .settled .notNeeded "Router utility file" },
      { name := "modal-guarded"
        applies := fun c f => c == .modal && f.guardsControl
        outcome := .settled .compliant "Modal uses permission-based controls" },
      { name := "modal-unprotected-actions"
        applies := fun c f => c == .modal && f.offersBareAction
        outcome :=
          { status := .needsMigration
            note := "Modal has action buttons without permission checks"
            issue := "Edit/Delete/Create buttons need PermissionButton wrapper"
            plan := "Wrap action buttons with PermissionButton component" } },
      { name := "modal-review"
        applies := fun c _ => c == .modal
        outcome :=
          { status := .partialReview
            note := "Modal file - needs manual review for action buttons"
            issue := []
            plan := "Review for action button permissions" } },
      { name := "permission-hook"
        applies := fun c _ => c == .hook .permissionHook
        outcome := .settled .compliant "Core permission/authorization hook" },
      { name := "role-filter-hook"
        applies := fun c _ => c == .hook .roleFilter
        outcome :=
          { status := .needsMigration
            note := "Hook contains role-based filtering logic"
            issue := "Hardcoded role filtering"
            plan := "Replace with permission-based filtering" } },
      { name := "utility-hook"
        applies := fun c _ => c == .hook .utility
        outcome := .settled .notNeeded "Utility hook - no RBAC needed" },
      { name := "api-service"
        applies := fun c _ => c == .apiService
        outcome := .settled .notNeeded "API service layer - no RBAC needed" },
      { name := "feature-permission-based"
        applies := fun c f =>
          c == .featureModule && (f.guardsControl || f.guardsPage) &&
            !f.decidesByRole
        outcome := .settled .compliant "Uses permission-based access control" },
      { name := "feature-legacy-hoc"
        applies := fun c f => c == .featureModule && f.wrapsRoleCheck
        outcome :=
          { status := .needsMigration
            note := "Uses legacy withRoleCheck HOC"
            issue := "withRoleCheck should be replaced with PageAccessGuard"
            plan :=
              "Replace withRoleCheck HOC with PageAccessGuard or " ++
              "usePageAccess hook" } },
      { name := "feature-role-comparison"
        applies := fun c f => c == .featureModule && f.comparesRole
        outcome :=
          { status := .needsMigration
            note := "Contains hardcoded role comparisons"
            issue := "user?.role === comparison found"
            plan :=
              "Replace with permission checks using usePageAccess hook" } },
      { name := "feature-role-list"
        applies := fun c f => c == .featureModule && f.listsRoles
        outcome :=
          { status := .needsMigration
            note := "Contains hardcoded role lists"
            issue := "allowedRoles or role array literal found"
            plan :=
              "Replace with permission checks using usePageAccess hook" } },
      { name := "feature-unprotected-buttons"
        applies := fun c f => c == .featureModule && f.showsActionButton
        outcome :=
          { status := .partialReview
            note := "May have unprotected action buttons"
            issue := "Potential unprotected buttons"
            plan := "Review and wrap with PermissionButton" } },
      { name := "feature-review"
        applies := fun c _ => c == .featureModule
        outcome :=
          { status := .partialReview
            note := "Feature module - needs manual review for RBAC"
            issue := []
            plan := "Review for permission-based access controls" } },
      { name := "permission-component"
        applies := fun c _ => c == .coreComponent .permissionRelated
        outcome := .settled .compliant "Permission-related component" },
      { name := "ui-component"
        applies := fun c _ => c == .coreComponent .ui
        outcome := .settled .notNeeded "UI component - no RBAC needed" },
      { name := "common-component"
        applies := fun c _ => c == .commonComponent
        outcome := .settled .notNeeded "Common UI component - no RBAC needed" },
      { name := "utils"
        applies := fun c _ => c == .utils
        outcome := .settled .notNeeded "Utility function - no RBAC needed" },
      { name := "types"
        applies := fun c _ => c == .types
        outcome :=
          .settled .notNeeded "Type definition file - no RBAC needed" },
      { name := "permission-context"
        applies := fun c _ => c == .context .permission
        outcome := .settled .compliant "Permission context provider" },
      { name := "context"
        applies := fun c _ => c == .context .general
        outcome := .settled .notNeeded "Context provider - no RBAC needed" },
      { name := "frontend-config"
        applies := fun c _ => c == .config
        outcome :=
          .settled .notNeeded "Configuration file - no RBAC needed" } ]
  fallback :=
    { name := "frontend-default"
      applies := fun _ _ => true
      outcome :=
        { status := .partialReview
          note := "React file - needs manual review"
          issue := []
          plan := "Review for RBAC compliance" } }

end AccessAudit
