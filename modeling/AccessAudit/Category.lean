import AccessAudit.Text.Basic

/-!
# Categories of source files

A file belongs to the backend, to the frontend or to neither, and inside its
domain to one category.  Every category has a key in lower case; its label is
the key in camel case.
-/

namespace AccessAudit

/-- The half of the code base that a file belongs to. -/
inductive Domain
  | backend
  | frontend
  | unknown
deriving DecidableEq, Repr

inductive MiddlewareKind
  | auth
  | pageAccess
  | general
deriving DecidableEq, Repr

inductive BackendCategory
  | test
  | seedOrScript
  | schemaModel
  | config
  | controller
  | socketController
  | routes
  | service
  | middleware (kind : MiddlewareKind)
  | other
deriving DecidableEq, Repr

inductive DataFileKind
  | sidebarMenu
  | horizontalSidebar
  | routeDefinitions
  | static
deriving DecidableEq, Repr

inductive RouterKind
  | legacyRoleHoc
  | configuration
  | utility
deriving DecidableEq, Repr

inductive HookKind
  | permissionHook
  | roleFilter
  | utility
deriving DecidableEq, Repr

inductive ComponentKind
  | permissionRelated
  | ui
deriving DecidableEq, Repr

inductive ContextKind
  | permission
  | general
deriving DecidableEq, Repr

inductive FrontendCategory
  | authPage
  | uiDemo
  | dataJson (kind : DataFileKind)
  | router (kind : RouterKind)
  | modal
  | hook (kind : HookKind)
  | apiService
  | featureModule
  | coreComponent (kind : ComponentKind)
  | commonComponent
  | utils
  | types
  | context (kind : ContextKind)
  | config
  | other
deriving DecidableEq, Repr

/-- A domain with a category of that domain. -/
inductive Classification
  | backend (category : BackendCategory)
  | frontend (category : FrontendCategory)
  | unknown
deriving DecidableEq, Repr

/-- The key of a category, and the key of its kind if it has kinds. -/
structure CategoryKey where
  name : Text
  kind : Option Text
deriving DecidableEq, Repr

def Domain.key : Domain → Text
  | .backend => "backend"
  | .frontend => "frontend"
  | .unknown => "unknown"

def MiddlewareKind.key : MiddlewareKind → Text
  | .auth => "auth"
  | .pageAccess => "page_access"
  | .general => "general"

def BackendCategory.key : BackendCategory → CategoryKey
  | .test => ⟨"test", none⟩
  | .seedOrScript => ⟨"seed_or_script", none⟩
  | .schemaModel => ⟨"schema_model", none⟩
  | .config => ⟨"config", none⟩
  | .controller => ⟨"controller", none⟩
  | .socketController => ⟨"socket_controller", none⟩
  | .routes => ⟨"routes", none⟩
  | .service => ⟨"service", none⟩
  | .middleware kind => ⟨"middleware", some kind.key⟩
  | .other => ⟨"other", none⟩

def DataFileKind.key : DataFileKind → Text
  | .sidebarMenu => "sidebar_menu"
  | .horizontalSidebar => "horizontal_sidebar"
  | .routeDefinitions => "route_definitions"
  | .static => "static"

def RouterKind.key : RouterKind → Text
  | .legacyRoleHoc => "legacy_role_hoc"
  | .configuration => "configuration"
  | .utility => "utility"

def HookKind.key : HookKind → Text
  | .permissionHook => "permission_hook"
  | .roleFilter => "role_filter"
  | .utility => "utility"

def ComponentKind.key : ComponentKind → Text
  | .permissionRelated => "permission_related"
  | .ui => "ui"

def ContextKind.key : ContextKind → Text
  | .permission => "permission"
  | .general => "general"

def FrontendCategory.key : FrontendCategory → CategoryKey
  | .authPage => ⟨"auth_page", none⟩
  | .uiDemo => ⟨"ui_demo", none⟩
  | .dataJson kind => ⟨"data_json", some kind.key⟩
  | .router kind => ⟨"router", some kind.key⟩
  | .modal => ⟨"modal", none⟩
  | .hook kind => ⟨"hook", some kind.key⟩
  | .apiService => ⟨"api_service", none⟩
  | .featureModule => ⟨"feature_module", none⟩
  | .coreComponent kind => ⟨"core_component", some kind.key⟩
  | .commonComponent => ⟨"common_component", none⟩
  | .utils => ⟨"utils", none⟩
  | .types => ⟨"types", none⟩
  | .context kind => ⟨"context", some kind.key⟩
  | .config => ⟨"config", none⟩
  | .other => ⟨"other", none⟩

namespace CategoryKey

/-- A key in camel case: every word begins with a capital. -/
def camelCase (key : Text) : Text :=
  (Text.pieces '_' key).flatMap fun
    | [] => []
    | first :: rest => first.toUpper :: rest

/-- The label of a category, with its kind in parentheses. -/
def label (key : CategoryKey) : Text :=
  match key.kind with
  | none => camelCase key.name
  | some kind => camelCase key.name ++ "(" ++ camelCase kind ++ ")"

end CategoryKey

def BackendCategory.all : List BackendCategory :=
  [.test, .seedOrScript, .schemaModel, .config, .controller,
    .socketController, .routes, .service, .middleware .auth,
    .middleware .pageAccess, .middleware .general, .other]

theorem BackendCategory.mem_all (category : BackendCategory) :
    category ∈ all := by
  rcases category with _ | _ | _ | _ | _ | _ | _ | _ | ⟨_ | _ | _⟩ | _ <;>
    decide

def FrontendCategory.all : List FrontendCategory :=
  [.authPage, .uiDemo, .dataJson .sidebarMenu, .dataJson .horizontalSidebar,
    .dataJson .routeDefinitions, .dataJson .static, .router .legacyRoleHoc,
    .router .configuration, .router .utility, .modal, .hook .permissionHook,
    .hook .roleFilter, .hook .utility, .apiService, .featureModule,
    .coreComponent .permissionRelated, .coreComponent .ui, .commonComponent,
    .utils, .types, .context .permission, .context .general, .config, .other]

theorem FrontendCategory.mem_all (category : FrontendCategory) :
    category ∈ all := by
  rcases category with _ | _ | ⟨_ | _ | _ | _⟩ | ⟨_ | _ | _⟩ | _ |
    ⟨_ | _ | _⟩ | _ | _ | ⟨_ | _⟩ | _ | _ | _ | ⟨_ | _⟩ | _ | _ <;> decide

namespace Classification

def all : List Classification :=
  BackendCategory.all.map .backend ++ FrontendCategory.all.map .frontend ++
    [.unknown]

theorem mem_all (classification : Classification) :
    classification ∈ all := by
  cases classification with
  | backend category => simp [all, BackendCategory.mem_all]
  | frontend category => simp [all, FrontendCategory.mem_all]
  | unknown => simp [all]

def domain : Classification → Domain
  | .backend _ => .backend
  | .frontend _ => .frontend
  | .unknown => .unknown

/-- The key of the category, absent outside the two domains. -/
def key? : Classification → Option CategoryKey
  | .backend category => some category.key
  | .frontend category => some category.key
  | .unknown => none

/-- The classification with the given domain and key. -/
def ofKey? (domain : Domain) (key : Option CategoryKey) :
    Option Classification :=
  all.find? fun candidate =>
    candidate.domain == domain && candidate.key? == key

/-- Domain and category as they are shown to a reader. -/
def display (classification : Classification) : Text :=
  match classification.key? with
  | none => classification.domain.key
  | some key => classification.domain.key ++ " / " ++ key.label

/-- Does any rule for the category look at the content of the file?  The
other categories are decided by the path alone. -/
def consultsContent : Classification → Bool
  | .backend .controller => true
  | .backend .socketController => true
  | .backend .routes => true
  | .backend .service => true
  | .frontend .modal => true
  | .frontend .featureModule => true
  | _ => false

end Classification

end AccessAudit
