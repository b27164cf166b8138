import AccessAudit.Text.LowerCase
import AccessAudit.Text.WhiteSpace

/-!
# Features of file content

Twelve lexical marks of access control that are looked for in the content of
a file.  Each is found independently of the others.
-/

namespace AccessAudit

/-- The marks found in the content of one file. -/
structure Features where
  /-- `requirePageAccess` is referenced. -/
  usesPageAccess : Bool
  /-- `requireRole(` is called. -/
  callsRequireRole : Bool
  /-- The role of a user is read. -/
  readsUserRole : Bool
  /-- `hasPermission` or `checkPermission` is referenced. -/
  checksPermission : Bool
  /-- A control or hook that respects permissions is used. -/
  guardsControl : Bool
  /-- `PageAccessGuard` is referenced. -/
  guardsPage : Bool
  /-- The higher-order component `withRoleCheck` is referenced. -/
  wrapsRoleCheck : Bool
  /-- A role is compared with a fixed string. -/
  comparesRole : Bool
  /-- A list of roles is written out. -/
  listsRoles : Bool
  /-- A button is labelled with a verb of change. -/
  showsActionButton : Bool
  /-- A button is labelled as submitting. -/
  showsSubmitButton : Bool
  /-- A click handler stands beside wording of editing or deleting. -/
  handlesInlineAction : Bool
deriving DecidableEq, Repr

namespace Features

/-- No mark at all. -/
def absent : Features :=
  ⟨false, false, false, false, false, false, false, false, false, false,
    false, false⟩

/-- Names and values of all marks, in the order of the fields. -/
def entries (features : Features) : List (Text × Bool) :=
  [ ("uses_page_access_middleware", features.usesPageAccess),
    ("uses_legacy_role_middleware", features.callsRequireRole),
    ("has_role_check", features.readsUserRole),
    ("has_permission_check", features.checksPermission),
    ("has_permission_guarded_control", features.guardsControl),
    ("has_page_access_guard", features.guardsPage),
    ("uses_legacy_role_hoc", features.wrapsRoleCheck),
    ("has_role_string_comparison", features.comparesRole),
    ("has_hardcoded_role_list", features.listsRoles),
    ("has_unprotected_action_button", features.showsActionButton),
    ("has_unprotected_submit_button", features.showsSubmitButton),
    ("has_inline_action_handler", features.handlesInlineAction) ]

/-- The features whose true marks are exactly the named ones. -/
def ofNames (names : List Text) : Features where
  usesPageAccess := names.contains "uses_page_access_middleware".toList
  callsRequireRole := names.contains "uses_legacy_role_middleware".toList
  readsUserRole := names.contains "has_role_check".toList
  checksPermission := names.contains "has_permission_check".toList
  guardsControl := names.contains "has_permission_guarded_control".toList
  guardsPage := names.contains "has_page_access_guard".toList
  wrapsRoleCheck := names.contains "uses_legacy_role_hoc".toList
  comparesRole := names.contains "has_role_string_comparison".toList
  listsRoles := names.contains "has_hardcoded_role_list".toList
  showsActionButton :=
    names.contains "has_unprotected_action_button".toList
  showsSubmitButton :=
    names.contains "has_unprotected_submit_button".toList
  handlesInlineAction := names.contains "has_inline_action_handler".toList

/-- Does the text begin with a call of `requireRole`, where white space may
precede the parenthesis? -/
def beginsRoleCall (text : Text) : Bool :=
  Text.startsWith text "requireRole" &&
    Text.startsWith (Text.trimStart (text.drop 11)) "("

/-- Does the text begin with a button tag, in any case of letters, whose
first closing bracket is followed by one of the lower-case words? -/
def beginsButton (words : List Text) (text : Text) : Bool :=
  Text.startsWithFolded text "<button" &&
    match (text.drop 7).dropWhile (· != '>') with
    | _ :: label => words.any (Text.startsWithFolded label)
    | [] => false

/-- The verbs of change that label an action button. -/
def actionWords : List Text :=
  ["edit", "delete", "add", "create", "save", "update", "remove"]

/-- Find every mark in the content of a file. -/
def ofContent (content : Text) : Features where
  usesPageAccess := Text.mentions content "requirePageAccess"
  callsRequireRole := Text.someSuffix beginsRoleCall content
  readsUserRole :=
    Text.mentionsAny content ["user.role", "req.user.role", "user?.role"]
  checksPermission :=
    Text.mentionsAny content ["hasPermission", "checkPermission"]
  guardsControl :=
    Text.mentionsAny content
      ["PermissionButton", "usePageAccess", "can(", "hasPermission("]
  guardsPage := Text.mentions content "PageAccessGuard"
  wrapsRoleCheck := Text.mentions content "withRoleCheck"
  comparesRole :=
    Text.mentionsAny content
      ["user?.role ===", "user.role ===", "publicMetadata?.role ==="]
  listsRoles :=
    Text.mentionsAny content ["allowedRoles:", "['admin',", "['hr',"]
  showsActionButton := Text.someSuffix (beginsButton actionWords) content
  showsSubmitButton := Text.someSuffix (beginsButton ["submit"]) content
  handlesInlineAction :=
    Text.mentions content "onClick" &&
      Text.mentionsAny (Text.lowerCase content) ["delete", "edit"]

end Features

end AccessAudit
