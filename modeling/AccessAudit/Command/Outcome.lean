import AccessAudit.Assessment
import AccessAudit.CommandLine.Invocation
import AccessAudit.Config.Load
import AccessAudit.FileSystem.Write

/-!
# Outcomes of commands

What a command leaves behind: the files after it, its output, its diagnostics
and its exit code.  Commands write their files one after the other and stop at
the first that cannot be written.
-/

namespace AccessAudit

/-- The effect of a command. -/
structure Outcome where
  workspace : Workspace
  output : Text
  diagnostics : List Diagnostic
  exitCode : Nat

namespace Outcome

/-- The exit code of a command that fails. -/
def failureCode : Nat := 2

/-- A command that fails after some diagnostics. -/
def failed (workspace : Workspace) (diagnostics : List Diagnostic)
    (failure : Failure) : Outcome :=
  ⟨workspace, [], diagnostics ++ [failure.diagnostic], failureCode⟩

/-- The text of all diagnostics.  It goes to no terminal and so has no
colors. -/
def errorOutput (outcome : Outcome) : Text :=
  outcome.diagnostics.flatMap (·.render false)

end Outcome

/-- Diagnostics that tell of no failure are left out in quiet mode. -/
def unlessQuiet (options : GlobalOptions) (diagnostics : List Diagnostic) :
    List Diagnostic :=
  if options.quiet then [] else diagnostics

/-- A file to be written, and the notice that tells of it. -/
structure FileOutput where
  path : Text
  content : Text
  notice : Option Text

/-- Files written one after the other: the workspace after that, the notices,
and the failure that has stopped it. -/
structure Writing where
  workspace : Workspace
  notices : List Diagnostic
  failure : Option Failure

/-- Write files in order, up to the first that cannot be written. -/
def Workspace.writeFiles (workspace : Workspace) :
    List FileOutput → Writing
  | [] => ⟨workspace, [], none⟩
  | file :: files =>
      let change := workspace.write file.path (Utf8.encode file.content)
      match change.outcome with
      | .error problem =>
          ⟨change.workspace, [], some (.fileAccess file.path problem)⟩
      | .ok () =>
          let rest := change.workspace.writeFiles files
          { rest with
            notices := (file.notice.map Diagnostic.info).toList ++
              rest.notices }

/-- The configuration of a command: the defaults if none is wanted, the one in
the given file, or the usual one. -/
def Workspace.loadConfig (workspace : Workspace) (options : GlobalOptions)
    (path : Option Text) : Except Failure Config :=
  if options.noConfig then .ok {}
  else
    match path with
    | some path => Config.loadFrom workspace.configSource path
    | none => Config.load workspace.configSource

/-- The files below a root as a source of contents.  Bytes that are no UTF-8
are replaced. -/
def Workspace.contentSource (workspace : Workspace) (root : Bytes) :
    ContentSource := fun path =>
  let path : Bytes := Path.join root path
  if !workspace.pathExists path then .missing
  else
    match workspace.read path with
    | .ok content => .text (Utf8.decodeLossy content)
    | .error _ => .unreadable

end AccessAudit
