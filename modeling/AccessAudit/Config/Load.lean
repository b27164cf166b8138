import AccessAudit.Config.OfDocument
import AccessAudit.FileSystem.Resolve

/-!
# Loading configurations

A configuration is read from a given file, or else from the usual file in the
current directory.  Where there is none, the defaults hold.
-/

namespace AccessAudit

/-- Where configuration files come from. -/
structure ConfigSource where
  /-- The current directory, if it is known. -/
  current : Option Bytes
  isPresent : Bytes → Bool
  read : Bytes → Except AccessProblem Text

namespace Config

/-- The configuration that a text writes. -/
def ofText (text : Text) : Except Failure Config :=
  match Toml.Document.parse? text with
  | some document => ofDocument document
  | none => .error (.unreadableConfig .malformed)

/-- The configuration in a given file. -/
def loadFrom (source : ConfigSource) (path : Bytes) :
    Except Failure Config :=
  match source.read path with
  | .ok text => ofText text
  | .error problem => .error (.fileAccess path problem)

/-- The configuration in the usual file, or the defaults. -/
def load (source : ConfigSource) : Except Failure Config :=
  match source.current with
  | none => .ok {}
  | some directory =>
      let path := Path.join directory fileName
      if source.isPresent path then loadFrom source path else .ok {}

end Config

/-- Files held in memory as a source of configurations.  A file without a text
is present but cannot be read.  Two spellings of a path with the same
components name the same file. -/
def ConfigSource.ofFiles (files : List (Bytes × Option Text))
    (current : Option Bytes) : ConfigSource :=
  let find (path : Bytes) :=
    files.find? fun file => Path.components file.1 = Path.components path
  { current := current
    isPresent := fun path => (find path).isSome
    read := fun path =>
      match find path with
      | some (_, some text) => .ok text
      | _ => .error (.other "file not found") }

/-- The files of a workspace as a source of configurations. -/
def Workspace.configSource (workspace : Workspace) : ConfigSource where
  current := some workspace.currentPath
  isPresent := workspace.pathExists
  read := workspace.readText

end AccessAudit
