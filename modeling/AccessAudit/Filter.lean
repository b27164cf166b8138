import AccessAudit.Glob.Engine
import AccessAudit.Glob.Parser
import AccessAudit.Path
import AccessAudit.Text.LowerCase

/-!
# File filters

A filter admits files by extension, in any case of letters, and turns away
those whose path matches an exclude pattern.
-/

namespace AccessAudit

/-- The extensions listed in manifests where nothing else is asked for. -/
def defaultExtensions : List Text :=
  ["js", "jsx", "ts", "tsx", "mjs", "cjs"]

/-- A filter: lower-cased extensions without leading dots, where no extension
admits all files, and exclude patterns. -/
structure FileFilter where
  extensions : List Text
  excluded : List Glob.Pattern

/-- Why there is no filter for some exclude texts. -/
inductive FilterProblem
  /-- A text is no pattern. -/
  | invalid (text : Text) (problem : Glob.Problem)
  /-- The patterns cannot be run together. -/
  | refused (reason : Text)
deriving DecidableEq, Repr

namespace FileFilter

/-- An extension in the form in which extensions are compared. -/
def normalizeExtension (extension : Text) : Text :=
  Text.lowerCase (extension.dropWhile (· = '.'))

/-- Read patterns up to the first that is no glob. -/
def readPatterns :
    List Text → Except (Text × Glob.Problem) (List Glob.Pattern)
  | [] => .ok []
  | text :: rest =>
      match Glob.parse text with
      | .error problem => .error (text, problem)
      | .ok pattern =>
          match readPatterns rest with
          | .error problem => .error problem
          | .ok patterns => .ok (pattern :: patterns)

/-- The filter for extensions and exclude patterns.  The first text that is
no pattern is reported, and after that the refusal of the engine. -/
def build [Glob.Engine] (extensions excluded : List Text) :
    Except FilterProblem FileFilter :=
  match readPatterns excluded with
  | .error (text, problem) => .error (.invalid text problem)
  | .ok patterns =>
      match Glob.Engine.refusal? patterns with
      | some reason => .error (.refused reason)
      | none => .ok ⟨extensions.map normalizeExtension, patterns⟩

/-- Is the extension of the path admitted?  An extension has to be a text. -/
def admitsExtension (filter : FileFilter) (path : Bytes) : Bool :=
  filter.extensions.isEmpty ||
    match (Path.extension? path).bind Utf8.decode? with
    | some extension => filter.extensions.contains (Text.lowerCase extension)
    | none => false

/-- Does the path match an exclude pattern? -/
def isExcluded (filter : FileFilter) (path : Bytes) : Bool :=
  filter.excluded.any fun pattern => Glob.isMatch .ordinary pattern path

/-- Is a file with this path listed? -/
def includes (filter : FileFilter) (path : Bytes) : Bool :=
  filter.admitsExtension path && !filter.isExcluded path

end FileFilter

end AccessAudit
