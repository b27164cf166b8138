import AccessAudit.CommandLine.Reading
import AccessAudit.Config
import AccessAudit.Style

/-!
# Invocations

The commands with their arguments, the levels that describe how they are
written, and the invocation that a command line asks for.
-/

namespace AccessAudit

/-! ## Arguments -/

/-- What holds for all commands. -/
structure GlobalOptions where
  verbosity : Nat
  quiet : Bool
  color : ColorChoice
  noConfig : Bool
deriving DecidableEq, Repr

structure AuditArguments where
  manifest : Option Text
  config : Option Text
  root : Option Text
  csv : Option Text
  summary : Option Text
  format : ReportFormat
  output : Option Text
  lenientManifest : Bool
  noReports : Bool
  failOnMigration : Bool
deriving DecidableEq, Repr

structure ManifestArguments where
  paths : List Text
  config : Option Text
  base : Text
  extensions : Option (List Text)
  exclude : List Text
  noGitignore : Bool
  output : Option Text
deriving DecidableEq, Repr

inductive ExplanationFormat
  | text
  | json
deriving DecidableEq, Repr

structure ExplainArguments where
  path : Text
  config : Option Text
  root : Option Text
  format : ExplanationFormat
deriving DecidableEq, Repr

structure InitArguments where
  output : Text
  force : Bool
deriving DecidableEq, Repr

inductive Command
  | audit (arguments : AuditArguments)
  | manifest (arguments : ManifestArguments)
  | explain (arguments : ExplainArguments)
  | init (arguments : InitArguments)
deriving DecidableEq, Repr

/-- What a command line asks for. -/
structure Invocation where
  options : GlobalOptions
  command : Command
deriving DecidableEq, Repr

namespace CommandLine

/-! ## Levels -/

/-- An option with a letter. -/
def short (letter : Char) (name : Text) (kind : OptionKind) : OptionSpec :=
  ⟨name, some letter, kind⟩

/-- An option without a letter, or an operand. -/
def long (name : Text) (kind : OptionKind) : OptionSpec :=
  ⟨name, none, kind⟩

/-- The names of the colour choices. -/
def colorNames : List Text := ["auto", "always", "never"]

/-- The names of the formats of an explanation. -/
def explanationFormatNames : List Text := ["text", "json"]

/-- The options that may stand on both levels. -/
def globalOptions : List OptionSpec := [
  short 'v' "verbose" .counter,
  short 'q' "quiet" .switch,
  long "color" (.single (.choice colorNames)),
  long "no-config" .switch,
  short 'h' "help" .help]

def programLevel : Level where
  options := short 'V' "version" .version :: globalOptions
  commands := ["audit", "manifest", "explain", "init", "help"]

def auditLevel : Level where
  options := globalOptions ++ [
    short 'c' "config" (.single .path),
    long "root" (.single .path),
    long "csv" (.single .path),
    long "summary" (.single .path),
    short 'f' "format" (.single .reportFormat),
    short 'o' "output" (.single .path),
    long "lenient-manifest" .switch,
    long "no-reports" .switch,
    long "fail-on-migration" .switch]
  operand := long "manifest" (.single .path)
  conflicts := [("no-reports", "csv"), ("no-reports", "summary")]

def manifestLevel : Level where
  options := globalOptions ++ [
    short 'c' "config" (.single .path),
    long "base" (.single .path),
    long "ext" (.list .anyText true),
    short 'x' "exclude" (.list .anyText false),
    long "no-gitignore" .switch,
    short 'o' "output" (.single .path)]
  operand := long "paths" (.list .path false)

def explainLevel : Level where
  options := globalOptions ++ [
    short 'c' "config" (.single .path),
    long "root" (.single .path),
    long "format" (.single (.choice explanationFormatNames))]
  operand := long "path" (.single .anyText)
  requiresOperand := true

def initLevel : Level where
  options := globalOptions ++ [
    short 'o' "output" (.single .path),
    long "force" .switch]

/-! ## From occurrences to arguments -/

/-- The colour choice with a name. -/
def colorOfName (name : Text) : ColorChoice :=
  if name = "always".toList then .always
  else if name = "never".toList then .never
  else .auto

/-- The greatest verbosity that is told from others. -/
def verbosityLimit : Nat := 255

/-- The options for all commands.  What is given after the command counts,
and else what is given before it. -/
def globalsOf (before after : Occurrences) : GlobalOptions where
  verbosity :=
    min verbosityLimit
      ((if after.has "verbose" then after else before).count "verbose")
  quiet := after.has "quiet" || before.has "quiet"
  color :=
    match (after.value? "color").or (before.value? "color") with
    | some name => colorOfName name
    | none => .auto
  noConfig := after.has "no-config" || before.has "no-config"

def auditOf (given : Occurrences) : AuditArguments where
  manifest := given.value? "manifest"
  config := given.value? "config"
  root := given.value? "root"
  csv := given.value? "csv"
  summary := given.value? "summary"
  format := ((given.value? "format").bind ReportFormat.ofName?).getD .text
  output := given.value? "output"
  lenientManifest := given.has "lenient-manifest"
  noReports := given.has "no-reports"
  failOnMigration := given.has "fail-on-migration"

def manifestOf (given : Occurrences) : ManifestArguments where
  paths := given.values "paths"
  config := given.value? "config"
  base := (given.value? "base").getD "."
  extensions := if given.has "ext" then some (given.values "ext") else none
  exclude := given.values "exclude"
  noGitignore := given.has "no-gitignore"
  output := given.value? "output"

def explainOf (given : Occurrences) : ExplainArguments where
  path := (given.value? "path").getD []
  config := given.value? "config"
  root := given.value? "root"
  format :=
    if given.value? "format" = some "json".toList then .json else .text

def initOf (given : Occurrences) : InitArguments where
  output := (given.value? "output").getD Config.fileName
  force := given.has "force"

/-- The level of a command, and what its occurrences ask for. -/
def commandLevel? (name : Text) : Option (Level × (Occurrences → Command)) :=
  if name = "audit".toList then some (auditLevel, .audit ∘ auditOf)
  else if name = "manifest".toList then
    some (manifestLevel, .manifest ∘ manifestOf)
  else if name = "explain".toList then
    some (explainLevel, .explain ∘ explainOf)
  else if name = "init".toList then some (initLevel, .init ∘ initOf)
  else none

/-- The answer to the word `help`, which may be followed by one command. -/
def helpFor : List Text → UsageProblem
  | [] => .help
  | [name] =>
      if programLevel.commands.contains name then .help
      else .invalidSubcommand
  | _ => .invalidSubcommand

end CommandLine

open CommandLine in
/-- The invocation that a command line asks for.  The arguments after the
command are settled before those in front of it. -/
def Invocation.parse (arguments : List Text) :
    Except UsageProblem Invocation :=
  match readLevel programLevel {} false arguments with
  | .error problem => .error problem
  | .ok (reading, none) =>
      match reading.settle with
      | .error problem => .error problem
      | .ok settled =>
          if settled.given.isEmpty then .error .helpForNothing
          else .error .missingSubcommand
  | .ok (reading, some (name, rest)) =>
      match commandLevel? name with
      | none => .error (helpFor rest)
      | some (level, command) =>
          match level.read rest with
          | .error problem => .error problem
          | .ok given =>
              match reading.settle with
              | .error problem => .error problem
              | .ok settled =>
                  .ok ⟨globalsOf settled.given given, command given⟩

end AccessAudit
