import AccessAudit.Diagnostic
import AccessAudit.FileSystem.Resolve
import AccessAudit.Filter

/-!
# Failures

Why a command cannot do its work, with the wording for the user: a category,
a message, and a detail and a hint where there are any.
-/

namespace AccessAudit

/-- Why a configuration text cannot be read. -/
inductive ConfigProblem
  /-- The text is no TOML document. -/
  | malformed
  /-- A value has another type than its key asks for. -/
  | wrongType (found expected : Text)
  | other (message : Text)
deriving DecidableEq, Repr

/-- The wording of a problem with a configuration text. -/
def ConfigProblem.message : ConfigProblem → Text
  | .malformed => "invalid TOML document"
  | .wrongType found expected =>
      "invalid type: " ++ found ++ ", expected " ++ expected
  | .other message => message

inductive Failure
  | config (reason : Text)
  | manifestNotFound (path : Bytes)
  | fileAccess (path : Bytes) (problem : AccessProblem)
  | noFilter (problem : FilterProblem)
  | io (problem : AccessProblem)
  | unreadableConfig (problem : ConfigProblem)
  | serialization (message : Text)
deriving DecidableEq, Repr

namespace Failure

/-- The category shown in the headline. -/
def category : Failure → Text
  | .config _ => "Config"
  | .manifestNotFound _ => "Manifest"
  | .fileAccess _ _ => "FileAccess"
  | .noFilter _ => "Pattern"
  | .io _ => "IO"
  | .unreadableConfig _ => "Config"
  | .serialization _ => "Serialization"

/-- The message without its category. -/
def message : Failure → Text
  | .config reason => reason
  | .manifestNotFound path => Utf8.decodeLossy path
  | .fileAccess path _ => Utf8.decodeLossy path
  | .noFilter (.invalid pattern _) => pattern
  | .noFilter (.refused _) => "combined patterns"
  | .io problem => problem.message
  | .unreadableConfig problem => problem.message
  | .serialization message => message

/-- What introduces the message where it stands alone. -/
def introduction : Failure → Text
  | .config _ => "Configuration error: "
  | .manifestNotFound _ => "Manifest not found: "
  | .fileAccess _ _ => "Failed to access file: "
  | .noFilter _ => "Invalid glob pattern: "
  | .io _ => "IO error: "
  | .unreadableConfig _ => "TOML parse error: "
  | .serialization _ => "JSON serialization error: "

def display (failure : Failure) : Text :=
  failure.introduction ++ failure.message

/-- The underlying cause, where it is worth showing. -/
def detail? : Failure → Option Text
  | .manifestNotFound _ => some "the manifest lists one file path per line"
  | .fileAccess _ problem => some problem.message
  | .noFilter (.invalid pattern problem) =>
      some ("error parsing glob '" ++ pattern ++ "': " ++ problem.message)
  | .noFilter (.refused reason) => some reason
  | _ => none

/-- What the user can do, where something can be done. -/
def hint? : Failure → Option Text
  | .manifestNotFound _ =>
      some "Generate one with `rbac-audit manifest -o files.txt`"
  | .unreadableConfig _ =>
      some "Run `rbac-audit init --force` to regenerate a valid config"
  | _ => none

/-- The failure as a block for the user. -/
def diagnostic (failure : Failure) : Diagnostic :=
  ⟨.error failure.category, failure.message, failure.detail?, failure.hint?⟩

end Failure

end AccessAudit
