import AccessAudit.Category
import AccessAudit.Text.LowerCase
import AccessAudit.Text.WhiteSpace

/-!
# Classification of paths

The domain is read off the first letters of a path.  The category is the one
of the first row of the domain's cascade whose evidence occurs in the
lower-cased path.  A row may look at the file name to choose a kind.
-/

namespace AccessAudit

/-- Manifest paths carry no white space around them and use forward
slashes. -/
def normalizePath (raw : Text) : Text :=
  (Text.trim raw).map fun c => if c = '\\' then '/' else c

/-- A lower-cased path with its last segment. -/
structure LoweredPath where
  whole : Text
  fileName : Text

/-- The lower-cased form of a path. -/
def LoweredPath.of (path : Text) : LoweredPath :=
  let whole := Text.lowerCase path
  ⟨whole, (Text.pieces '/' whole).getLastD []⟩

/-- One row of a cascade.  Of every group of markers at least one has to
occur in the path. -/
structure CascadeRow (Category : Type) where
  evidence : List (List Text)
  category : LoweredPath → Category

namespace CascadeRow

variable {Category : Type}

/-- Does the path hold the evidence of the row? -/
def holds (row : CascadeRow Category) (path : LoweredPath) : Bool :=
  row.evidence.all (Text.mentionsAny path.whole)

/-- The category of the first row that holds, or the last resort. -/
def first (rows : List (CascadeRow Category)) (lastResort : Category)
    (path : LoweredPath) : Category :=
  match rows.find? (·.holds path) with
  | some row => row.category path
  | none => lastResort

end CascadeRow

def controllerKind (path : LoweredPath) : BackendCategory :=
  if Text.mentions path.whole "socket" then .socketController
  else .controller

def middlewareKind (path : LoweredPath) : MiddlewareKind :=
  if path.fileName = "auth.js" then .auth
  else if path.fileName = "pageaccess.js" then .pageAccess
  else .general

/-- The backend cascade: tests first, middleware last. -/
def backendCascade : List (CascadeRow BackendCategory) :=
  [ ⟨[["test", "__tests__", "spec"]], fun _ => .test⟩,
    ⟨[["seed", "script", "migration"]], fun _ => .seedOrScript⟩,
    ⟨[["models"], [".schema.js", ".model.js"]], fun _ => .schemaModel⟩,
    ⟨[["config"]], fun _ => .config⟩,
    ⟨[["controller"]], controllerKind⟩,
    ⟨[["routes"]], fun _ => .routes⟩,
    ⟨[["service"]], fun _ => .service⟩,
    ⟨[["middleware"]], fun path => .middleware (middlewareKind path)⟩ ]

def dataFileKind (path : LoweredPath) : DataFileKind :=
  if path.fileName = "sidebarmenu.jsx" then .sidebarMenu
  else if path.fileName = "horizontalsidebar.tsx" then .horizontalSidebar
  else if path.fileName = "all_routes.tsx" then .routeDefinitions
  else if Text.mentions path.whole "router" then .routeDefinitions
  else .static

def routerKind (path : LoweredPath) : RouterKind :=
  if path.fileName = "withrolecheck.jsx" then .legacyRoleHoc
  else if path.fileName = "router.jsx" ||
      Text.startsWith path.fileName "router.link" then .configuration
  else .utility

def hookKind (path : LoweredPath) : HookKind :=
  if Text.mentionsAny path.fileName ["usepageaccess", "useauth"] then
    .permissionHook
  else if Text.mentions path.fileName "dashboardrolefilter" then .roleFilter
  else .utility

def componentKind (path : LoweredPath) : ComponentKind :=
  if Text.mentionsAny path.fileName
      ["rolebasedrenderer", "permissionfield", "roledebugger"] then
    .permissionRelated
  else .ui

def contextKind (path : LoweredPath) : ContextKind :=
  if Text.mentions path.fileName "permission" then .permission
  else .general

/-- The frontend cascade: pages before login first, configuration last. -/
def frontendCascade : List (CascadeRow FrontendCategory) :=
  [ ⟨[["feature-module/auth", "login", "register", "forgotpassword",
        "resetpassword", "emailverification", "twostep", "lockscreen"]],
      fun _ => .authPage⟩,
    ⟨[["uiinterface", "ui-interface"]], fun _ => .uiDemo⟩,
    ⟨[["data/json"]], fun path => .dataJson (dataFileKind path)⟩,
    ⟨[["router"]], fun path => .router (routerKind path)⟩,
    ⟨[["modal"]], fun _ => .modal⟩,
    ⟨[["hooks"]], fun path => .hook (hookKind path)⟩,
    ⟨[["services"]], fun _ => .apiService⟩,
    ⟨[["feature-module"]], fun _ => .featureModule⟩,
    ⟨[["core/components"]], fun path => .coreComponent (componentKind path)⟩,
    ⟨[["core/common"]], fun _ => .commonComponent⟩,
    ⟨[["utils"]], fun _ => .utils⟩,
    ⟨[["types"]], fun _ => .types⟩,
    ⟨[["contexts"]], fun path => .context (contextKind path)⟩,
    ⟨[["config"]], fun _ => .config⟩ ]

/-- The domain and category of a normalized path. -/
def classify (path : Text) : Classification :=
  if Text.startsWith path "backend" then
    .backend (CascadeRow.first backendCascade .other (LoweredPath.of path))
  else if Text.startsWith path "react" then
    .frontend (CascadeRow.first frontendCascade .other (LoweredPath.of path))
  else
    .unknown

end AccessAudit
