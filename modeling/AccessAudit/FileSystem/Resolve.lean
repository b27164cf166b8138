import AccessAudit.FileSystem.Tree

/-!
# Resolution of paths

A path is followed segment by segment from the current directory, through
symbolic links, to the place it names: a node, or a free name in an existing
directory.  Resolution fails for the reasons that a Unix system gives.
-/

namespace AccessAudit

/-- Why an access to a file fails. -/
inductive AccessProblem
  | notFound
  | isDirectory
  | notDirectory
  | alreadyExists
  | tooManyLinks
  | permissionDenied
  | invalidUtf8
  | missingScanRoot
  | other (message : Text)
deriving DecidableEq, Repr

/-- The wording of an access problem. -/
def AccessProblem.message : AccessProblem → Text
  | .notFound => "No such file or directory (os error 2)"
  | .isDirectory => "Is a directory (os error 21)"
  | .notDirectory => "Not a directory (os error 20)"
  | .alreadyExists => "File exists (os error 17)"
  | .tooManyLinks => "Too many levels of symbolic links (os error 40)"
  | .permissionDenied => "Permission denied (os error 13)"
  | .invalidUtf8 => "stream did not contain valid UTF-8"
  | .missingScanRoot => "scan root does not exist"
  | .other message => message

/-- The content of a file that may be read. -/
def StoredFile.read (file : StoredFile) : Except AccessProblem Bytes :=
  if file.isReadable then .ok file.content else .error .permissionDenied

/-- The tree of all files, the directory in which paths begin, and the ignore
file that the settings of the user name for all directories, if they do. -/
structure Workspace where
  tree : Node
  current : Location
  userIgnore : Option Bytes := none

inductive Place
  /-- A node at a location without links. -/
  | occupied (location : Location)
  /-- A name that is free in an existing directory. -/
  | vacant (directory : Location) (name : Bytes)
deriving DecidableEq, Repr

/-- What a path is resolved for. -/
inductive Purpose
  /-- To use the node, after all links. -/
  | use
  /-- To use the entry itself, even if it is a link. -/
  | entry
  /-- To write a file there, after all links. -/
  | write
deriving DecidableEq, Repr

/-- How far a path is followed before the next link. -/
inductive Progress
  | arrived (place : Place)
  | failed (problem : AccessProblem)
  /-- A link has been met: go on at a location with these segments. -/
  | redirected (location : Location) (segments : List Bytes)
deriving DecidableEq, Repr

namespace Workspace

/-- Follow segments from a location up to the next link.  A path that is to
be written must not end in a slash after a name. -/
def follow (tree : Node) (purpose : Purpose) (location : Location) :
    List Bytes → Progress
  | [] => .arrived (.occupied location)
  | segment :: rest =>
      match tree.get? location with
      | some (.directory entries) =>
          if Path.isIdle segment then follow tree purpose location rest
          else if segment = [Path.dot, Path.dot] then
            follow tree purpose location.dropLast rest
          else if purpose = .write && !rest.isEmpty &&
              rest.all List.isEmpty then
            .failed .isDirectory
          else
            match entries.lookup segment with
            | none =>
                if rest.isEmpty then .arrived (.vacant location segment)
                else .failed .notFound
            | some (.link target) =>
                if rest.isEmpty && purpose = .entry then
                  .arrived (.occupied (location ++ [segment]))
                else
                  .redirected
                    (if Path.isAbsolute target then [] else location)
                    (Text.pieces Path.slash target ++ rest)
            | some _ => follow tree purpose (location ++ [segment]) rest
      | _ => .failed .notDirectory

/-- Follow segments through at most `links` links. -/
def followLinks (tree : Node) (purpose : Purpose) :
    (links : Nat) → Location → List Bytes → Except AccessProblem Place
  | 0, location, segments =>
      match follow tree purpose location segments with
      | .arrived place => .ok place
      | .failed problem => .error problem
      | .redirected _ _ => .error .tooManyLinks
  | links + 1, location, segments =>
      match follow tree purpose location segments with
      | .arrived place => .ok place
      | .failed problem => .error problem
      | .redirected location segments =>
          followLinks tree purpose links location segments

/-- The number of links that one path may pass through. -/
def linkLimit : Nat := 40

/-- The place that a path names. -/
def resolve (workspace : Workspace) (purpose : Purpose) (path : Bytes) :
    Except AccessProblem Place :=
  if path.isEmpty then .error .notFound
  else
    followLinks workspace.tree purpose linkLimit
      (if Path.isAbsolute path then [] else workspace.current)
      (Text.pieces Path.slash path)

/-- The node that a path leads to. -/
def find (workspace : Workspace) (purpose : Purpose) (path : Bytes) :
    Except AccessProblem Node :=
  match workspace.resolve purpose path with
  | .error problem => .error problem
  | .ok (.vacant _ _) => .error .notFound
  | .ok (.occupied location) =>
      match workspace.tree.get? location with
      | some node => .ok node
      | none => .error .notFound

/-- Does the path lead to anything? -/
def pathExists (workspace : Workspace) (path : Bytes) : Bool :=
  (workspace.find .use path).isOk

/-- Does the path lead to a regular file? -/
def isFile (workspace : Workspace) (path : Bytes) : Bool :=
  match workspace.find .use path with
  | .ok (.file _) => true
  | _ => false

/-- Does the path lead to a directory? -/
def isDirectory (workspace : Workspace) (path : Bytes) : Bool :=
  match workspace.find .use path with
  | .ok (.directory _) => true
  | _ => false

/-- The absolute path of the current directory. -/
def currentPath (workspace : Workspace) : Bytes :=
  Path.slash :: Text.joinWith [Path.slash] workspace.current

def read (workspace : Workspace) (path : Bytes) :
    Except AccessProblem Bytes :=
  match workspace.find .use path with
  | .ok (.file file) => file.read
  | .ok _ => .error .isDirectory
  | .error problem => .error problem

/-- The content of a file that has to be well-formed UTF-8. -/
def readText (workspace : Workspace) (path : Bytes) :
    Except AccessProblem Text :=
  match workspace.read path with
  | .error problem => .error problem
  | .ok content =>
      match Utf8.decode? content with
      | some text => .ok text
      | none => .error .invalidUtf8

end Workspace

end AccessAudit
