import AccessAudit.Command.Run

/-!
# The program

The files below the current directory are read, together with those that the
command line and the configuration name elsewhere.  The command runs on them,
and what it has changed is written back.
-/

namespace AccessAudit

/-- A regular file with what may be done with it.  Nothing is known of the
content of a file that may not be read. -/
def readStored (entry : IO.FS.DirEntry) : IO StoredFile := do
  let content ←
    try
      pure (some (← IO.FS.readBinFile entry.path).toList)
    catch _ => pure none
  let isWritable ←
    try
      let _ ← IO.FS.Handle.mk entry.path .append
      pure true
    catch _ => pure false
  return ⟨content.getD [], content.isSome, isWritable⟩

/-- The node behind an entry of a directory, if there is one.  A link is taken
to lead to the place where it ends. -/
partial def readNode (entry : IO.FS.DirEntry) : IO (Option Node) := do
  try
    match (← entry.path.symlinkMetadata).type with
    | .dir =>
        let children ← (← entry.path.readDir).toList.mapM fun child => do
          return (← readNode child).map (Utf8.encode child.fileName, ·)
        return some (.directory (children.filterMap id))
    | .file => return some (.file (← readStored entry))
    | .symlink =>
        let target ← IO.FS.realPath entry.path
        return some (.link (Utf8.encode target.toString))
    | .other => return none
  catch _ => return none

/-- The location of a path that is followed without regard to links. -/
def locationFrom (current : Location) (path : Bytes) : Location :=
  (Text.pieces Path.slash path).foldl
    (fun location segment =>
      if Path.isIdle segment then location
      else if segment = [Path.dot, Path.dot] then location.dropLast
      else location ++ [segment])
    (if Path.isAbsolute path then [] else current)

/-- The path of a location, whose names are those that the operating system
gives. -/
def pathOf (location : Location) : String :=
  String.ofList ("/" ++ Text.joinWith "/" (location.map Utf8.decodeLossy))

/-- Add what is found at a location to a workspace. -/
def addLocation (workspace : Workspace) (location : Location) :
    IO Workspace := do
  let entry : IO.FS.DirEntry := ⟨pathOf location, "."⟩
  let directory := pathOf location.dropLast
  let entry :=
    match location.getLast? with
    | some name =>
        { entry with
          root := directory
          fileName := String.ofList (Utf8.decodeLossy name) }
    | none => entry
  match ← readNode entry with
  | none => return workspace
  | some node =>
      let made := workspace.makeDirectories (Utf8.encode directory)
      return made.workspace.put location (some node)

/-- Add what a path names outside the current directory. -/
def addPath (workspace : Workspace) (path : Bytes) : IO Workspace := do
  let location := locationFrom workspace.current path
  if workspace.current.isPrefixOf location then return workspace
  else addLocation workspace location

/-- The usual place of the ignore file of a user. -/
def userIgnorePath : IO (Option Bytes) := do
  match ← IO.getEnv "XDG_CONFIG_HOME", ← IO.getEnv "HOME" with
  | some directory, _ =>
      return some (Utf8.encode (directory ++ "/git/ignore"))
  | none, some home =>
      return some (Utf8.encode (home ++ "/.config/git/ignore"))
  | none, none => return none

/-- The workspace in which an invocation runs. -/
def readWorkspace (invocation : Invocation) : IO Workspace := do
  let directory ← IO.currentDir
  let current := locationFrom [] (Utf8.encode directory.toString)
  let userIgnore ← userIgnorePath
  let here ← addLocation ⟨.emptyDirectory, current, userIgnore⟩ current
  let start ← userIgnore.toList.foldlM addPath here
  let configPaths := invocation.configPath?.toList.map Utf8.encode
  let withConfig ← configPaths.foldlM addPath start
  let config :=
    match withConfig.loadConfig invocation.options invocation.configPath? with
    | .ok config => config
    | .error _ => {}
  (invocation.namedPaths config).foldlM addPath withConfig

/-- Write what is new or changed in a workspace. -/
def writeChanges (old new : Workspace) : IO Unit := do
  let known := old.tree.directories
  for location in new.tree.directories do
    unless known.contains location do
      IO.FS.createDirAll (pathOf location)
  let files := old.tree.files
  for (location, content) in new.tree.files do
    unless files.lookup location = some content do
      IO.FS.writeBinFile (pathOf location) (ByteArray.mk content.toArray)

/-- What is shown to a user whose command line leads to no command. -/
def usage : String :=
  "Usage: rbac-audit [OPTIONS] <audit | manifest | explain | init>"

def versionLine : String := "rbac-audit 0.1.0"

end AccessAudit

open AccessAudit in
/-- Run the command that the arguments ask for. -/
def main (arguments : List String) : IO UInt32 := do
  match Invocation.parse (arguments.map String.toList) with
  | .error problem =>
      match problem with
      | .help => IO.println usage
      | .version => IO.println versionLine
      | _ => IO.eprintln usage
      return UInt32.ofNat problem.exitCode
  | .ok invocation =>
      let _ : Glob.Engine := .standard
      let workspace ← readWorkspace invocation
      let outcome := invocation.run workspace
      writeChanges workspace outcome.workspace
      IO.print (String.ofList outcome.output)
      IO.eprint (String.ofList outcome.errorOutput)
      return UInt32.ofNat outcome.exitCode
