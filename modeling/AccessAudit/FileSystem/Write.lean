import AccessAudit.FileSystem.Resolve

/-!
# Changes to the file system

Making directories and writing files.  Every operation answers with the
workspace after it, also where it fails, for a failure may come after a part
of the work is done.
-/

namespace AccessAudit

/-- A workspace after a change, and whether the change succeeded. -/
structure Change where
  workspace : Workspace
  outcome : Except AccessProblem Unit

namespace Workspace

/-- Put a node, or nothing, at a location. -/
def put (workspace : Workspace) (location : Location) (node : Option Node) :
    Workspace :=
  { workspace with tree := workspace.tree.set location node }

/-- Put a node at a free name. -/
def occupy (workspace : Workspace) (directory : Location) (name : Bytes)
    (node : Node) : Workspace :=
  workspace.put (directory ++ [name]) (some node)

/-- Nothing was changed. -/
def unchanged (workspace : Workspace)
    (outcome : Except AccessProblem Unit) : Change :=
  ⟨workspace, outcome⟩

def makeDirectory (workspace : Workspace) (path : Bytes) : Change :=
  match workspace.resolve .entry path with
  | .error problem => workspace.unchanged (.error problem)
  | .ok (.occupied _) => workspace.unchanged (.error .alreadyExists)
  | .ok (.vacant directory name) =>
      ⟨workspace.occupy directory name .emptyDirectory, .ok ()⟩

/-- The outcome of making a directory where one may be already. -/
def acceptExisting (change : Change) (path : Bytes) : Change :=
  match change.outcome with
  | .ok () => change
  | .error _ =>
      if change.workspace.isDirectory path then
        change.workspace.unchanged (.ok ())
      else change

/-- Make the first of the given directories.  Where its parent is missing,
the directories after it are made before. -/
def makeDirectoryChain (workspace : Workspace) : List Bytes → Change
  | [] => workspace.unchanged (.ok ())
  | path :: parents =>
      if path.isEmpty then workspace.unchanged (.ok ())
      else
        let first := workspace.makeDirectory path
        match first.outcome with
        | .error .notFound =>
            let above := workspace.makeDirectoryChain parents
            match above.outcome with
            | .error _ => above
            | .ok () =>
                acceptExisting (above.workspace.makeDirectory path) path
        | _ => acceptExisting first path

/-- Make a directory with all missing directories above it. -/
def makeDirectories (workspace : Workspace) (path : Bytes) : Change :=
  workspace.makeDirectoryChain (Path.ancestors path)

/-- Write a file whose directory exists: replace the content of a regular
file, which keeps its permissions, or create one. -/
def writeHere (workspace : Workspace) (path : Bytes) (content : Bytes) :
    Change :=
  match workspace.resolve .write path with
  | .error problem => workspace.unchanged (.error problem)
  | .ok (.vacant directory name) =>
      ⟨workspace.occupy directory name (.file { content := content }),
        .ok ()⟩
  | .ok (.occupied location) =>
      match workspace.tree.get? location with
      | some (.file file) =>
          if file.isWritable then
            ⟨workspace.put location
              (some (.file { file with content := content })), .ok ()⟩
          else workspace.unchanged (.error .permissionDenied)
      | _ => workspace.unchanged (.error .isDirectory)

/-- Write a file, making missing directories first. -/
def write (workspace : Workspace) (path : Bytes) (content : Bytes) : Change :=
  match Path.parent? path with
  | none => workspace.writeHere path content
  | some parent =>
      let made := workspace.makeDirectories parent
      match made.outcome with
      | .error _ => made
      | .ok () => made.workspace.writeHere path content

/-- What is laid out at a path. -/
inductive Layout
  | file (content : Bytes)
  | directory
  | link (target : Bytes)
  | nothing

/-- Lay out one path in a directory, whatever is there. -/
def layOut (workspace : Workspace) (path : Bytes) (layout : Layout) :
    Workspace :=
  let above :=
    match Path.parent? path with
    | none => workspace
    | some parent => (workspace.makeDirectories parent).workspace
  match layout with
  | .file content => (above.writeHere path content).workspace
  | .directory => (above.makeDirectories path).workspace
  | .link target =>
      match above.resolve .entry path with
      | .ok (.vacant directory name) =>
          above.occupy directory name (.link target)
      | .ok (.occupied location) => above.put location (some (.link target))
      | .error _ => above
  | .nothing =>
      match workspace.resolve .entry path with
      | .ok (.occupied (name :: location)) =>
          workspace.put (name :: location) none
      | _ => workspace

/-- Lay out several paths in order. -/
def layOutAll (workspace : Workspace) (items : List (Bytes × Layout)) :
    Workspace :=
  items.foldl (fun workspace (path, layout) => workspace.layOut path layout)
    workspace

/-- A file system with nothing but an empty current directory. -/
def fresh (current : Bytes) : Workspace :=
  { tree := .directory [(current, .emptyDirectory)]
    current := [current] }

/-- The regular files below the current directory, by their paths. -/
def currentFiles (workspace : Workspace) : List (Bytes × Bytes) :=
  match workspace.tree.get? workspace.current with
  | some node =>
      node.files.map fun (location, content) =>
        (Text.joinWith [Path.slash] location, content)
  | none => []

/-- The regular files of the later workspace that are new or changed. -/
def writtenSince (before after : Workspace) : List (Bytes × Bytes) :=
  let old := before.currentFiles
  after.currentFiles.filter fun (path, content) =>
    old.lookup path != some content

end Workspace

end AccessAudit
