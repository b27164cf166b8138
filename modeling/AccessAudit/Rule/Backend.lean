import AccessAudit.Category
import AccessAudit.Rule.Table

/-!
# Rules for backend files
-/

namespace AccessAudit

/-- Is the category one of the two kinds of controller? -/
def BackendCategory.isController : BackendCategory → Bool
  | .controller => true
  | .socketController => true
  | _ => false

/-- Is the category some kind of middleware? -/
def BackendCategory.isMiddleware : BackendCategory → Bool
  | .middleware _ => true
  | _ => false

def backendRules : RuleTable BackendCategory where
  rules :=
    [ { name := "test-file"
        applies := fun c _ => c == .test
        outcome := .settled .notNeeded "Test file - no RBAC needed" },
      { name := "seed-or-script"
        applies := fun c _ => c == .seedOrScript
        outcome :=
          .settled .notNeeded "Seed/migration script - no RBAC needed" },
      { name := "schema-model"
        applies := fun c _ => c == .schemaModel
        outcome := .settled .notNeeded "Schema definition - no RBAC needed" },
      { name := "backend-config"
        applies := fun c _ => c == .config
        outcome :=
          .settled .notNeeded "Configuration file - no RBAC needed" },
      { name := "controller-page-access"
        applies := fun c f => c.isController && f.usesPageAccess
        outcome := .settled .compliant "Using requirePageAccess middleware" },
      { name := "controller-legacy-role"
        applies := fun c f => c.isController && f.callsRequireRole
        outcome :=
          { status := .needsMigration
            note := "Using legacy requireRole middleware"
            issue :=
              "requireRole() should be replaced with requirePageAccess()"
            plan := "Replace requireRole with requirePageAccess" } },
      { name := "socket-permission-check"
        applies := fun c f => c == .socketController && f.checksPermission
        outcome :=
          .settled .compliant "Socket controller with permission checks" },
      { name := "socket-unchecked"
        applies := fun c _ => c == .socketController
        outcome :=
          { status := .needsMigration
            note := "Socket controller without explicit permission checks"
            issue := "Socket operations need permission validation"
            plan := "Add permission checks to socket handlers" } },
      { name := "controller-unprotected"
        applies := fun c _ => c == .controller
        outcome :=
          { status := .needsMigration
            note := "Controller without RBAC middleware"
            issue := "Missing requirePageAccess or requireRole middleware"
            plan :=
              "Add requirePageAccess middleware to controller routes" } },
      { name := "routes-page-access"
        applies := fun c f => c == .routes && f.usesPageAccess
        outcome :=
          .settled .compliant "Routes use requirePageAccess middleware" },
      { name := "routes-legacy-role"
        applies := fun c f => c == .routes && f.callsRequireRole
        outcome :=
          { status := .needsMigration
            note := "Routes use legacy requireRole middleware"
            issue :=
              "requireRole() should be replaced with requirePageAccess()"
            plan := "Replace requireRole with requirePageAccess" } },
      { name := "routes-unprotected"
        applies := fun c _ => c == .routes
        outcome :=
          { status := .needsMigration
            note := "Routes without RBAC middleware"
            issue := "Missing requirePageAccess or requireRole middleware"
            plan := "Add requirePageAccess middleware to routes" } },
      { name := "service-role-logic"
        applies := fun c f => c == .service && f.readsUserRole
        outcome :=
          { status := .needsMigration
            note := "Service contains role-based logic"
            issue :=
              "Role checks should be in controller/middleware, not service"
            plan :=
              "Move permission checks to controller/middleware layer" } },
      { name := "service"
        applies := fun c _ => c == .service
        outcome := .settled .notNeeded "Service file - business logic only" },
      { name := "auth-middleware"
        applies := fun c _ => c == .middleware .auth
        outcome :=
          { status := .partialReview
            note :=
              "Auth middleware exports requireRole for backward compatibility"
            issue := "Still exports requireRole function"
            plan :=
              "Keep for backward compatibility, use requirePageAccess in " ++
              "new code" } },
      { name := "page-access-middleware"
        applies := fun c _ => c == .middleware .pageAccess
        outcome :=
          .settled .compliant
            "Page access middleware - core RBAC component" },
      { name := "middleware"
        applies := fun c _ => c.isMiddleware
        outcome := .settled .notNeeded "Middleware file (not auth-related)" } ]
  fallback :=
    { name := "backend-default"
      applies := fun _ _ => true
      outcome := .settled .notNeeded "Backend utility/file" }

end AccessAudit
