import AccessAudit.FileSystem.Resolve
import AccessAudit.Filter
import AccessAudit.Scan.Ignore

/-!
# Scanning for files

A scan lists the regular files below a root, in depth-first order with the
entries of every directory in the order of their names.  Links inside the
tree are neither listed nor followed.  Ignore rules, if they are respected,
prune the walk.
-/

namespace AccessAudit

namespace Node

mutual

/-- The paths of the regular files in a tree whose top has the given path. -/
def walk (path : Bytes) : Node → List Bytes
  | .file _ => [path]
  | .link _ => []
  | .directory entries =>
      (byName (walkEntries path entries)).flatMap (·.2)

/-- The paths below every entry of a directory. -/
def walkEntries (path : Bytes) :
    List (Bytes × Node) → List (Bytes × List Bytes)
  | [] => []
  | (name, node) :: rest =>
      (name, node.walk (Path.join path name)) :: walkEntries path rest

end

def isDirectory : Node → Bool
  | .directory _ => true
  | _ => false

mutual

/-- The paths of the regular files in a tree that no ignore rule hides.  The
`levels` are the ignore files of the directories above, and `read` gives the
content of files. -/
def walkKept (read : Bytes → Option Bytes) (user : UserRules)
    (levels : List IgnoreLevel) (path : Bytes) : Node → List Bytes
  | .file _ => [path]
  | .link _ => []
  | .directory entries =>
      let levels := .ofDirectory read path :: levels
      (byName (walkKeptEntries read user levels path entries)).flatMap (·.2)

/-- The kept paths below every entry of a directory. -/
def walkKeptEntries (read : Bytes → Option Bytes) (user : UserRules)
    (levels : List IgnoreLevel) (path : Bytes) :
    List (Bytes × Node) → List (Bytes × List Bytes)
  | [] => []
  | (name, node) :: rest =>
      let child := Path.join path name
      let kept :=
        if IgnoreLevel.isIgnored user levels child node.isDirectory then []
        else node.walkKept read user levels child
      (name, kept) :: walkKeptEntries read user levels path rest

end

end Node

namespace Workspace

/-- The files below a root, whatever ignore files say.  A root that is a link
is walked if it leads to a directory. -/
def scanAll (workspace : Workspace) (root : Bytes) : List Bytes :=
  match workspace.find .entry root with
  | .ok (.link _) =>
      match workspace.find .use root with
      | .ok (.directory entries) => (Node.directory entries).walk root
      | _ => []
  | .ok node => node.walk root
  | .error _ => []

/-- Does a root name standard input, which holds no files? -/
def isStandardInput (root : Bytes) : Bool :=
  Path.components root == [.name "-"]

/-- The rules in the ignore file of the user, understood from the current
directory. -/
def userRules (workspace : Workspace) : UserRules where
  directory := workspace.currentPath
  rules :=
    match workspace.userIgnore.bind (workspace.read · |>.toOption) with
    | some content => IgnoreRule.ofFile content
    | none => []

/-- The files below a root that ignore rules leave.  A root that is a link is
taken for what it leads to. -/
def scanKept (workspace : Workspace) (root : Bytes) : List Bytes :=
  if isStandardInput root then []
  else
    match workspace.find .use root with
    | .ok node =>
        node.walkKept (workspace.read · |>.toOption) workspace.userRules []
          root
    | .error _ => []

/-- The files below a root that the filter includes.  The root has to
exist. -/
def scan (workspace : Workspace) (filter : FileFilter)
    (respectIgnoreFiles : Bool) (root : Bytes) :
    Except AccessProblem (List Bytes) :=
  if !workspace.pathExists root then .error .missingScanRoot
  else
    let listed :=
      if respectIgnoreFiles then workspace.scanKept root
      else workspace.scanAll root
    .ok (listed.filter filter.includes)

end Workspace

end AccessAudit
