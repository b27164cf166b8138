import AccessAudit.Report.Format

/-!
# Options and operands of a command line

A command line has two levels, the program and one of its commands.  Each
level has a table of options, at most one operand, and the rules on which of
them go together.
-/

namespace AccessAudit

/-- Why a command line does not lead to a command. -/
inductive UsageProblem
  | unknownArgument
  | invalidValue
  | valueValidation
  | argumentConflict
  | tooManyValues
  | missingRequiredArgument
  | missingSubcommand
  | invalidSubcommand
  /-- Nothing at all is asked for, so the help is shown. -/
  | helpForNothing
  /-- The help is asked for. -/
  | help
  /-- The version is asked for. -/
  | version
deriving DecidableEq, Repr

/-- The exit code of the program.  To be asked for help or the version is no
error. -/
def UsageProblem.exitCode : UsageProblem → Nat
  | .help | .version => 0
  | _ => 2

namespace CommandLine

/-- What a value has to be. -/
inductive ValueRule
  | anyText
  /-- A text that is not empty. -/
  | path
  | choice (names : List Text)
  | reportFormat
deriving DecidableEq, Repr

/-- The problem with a value, if there is one. -/
def ValueRule.problem? (rule : ValueRule) (value : Text) :
    Option UsageProblem :=
  match rule with
  | .anyText => none
  | .path => if value.isEmpty then some .invalidValue else none
  | .choice names =>
      if names.contains value then none else some .invalidValue
  | .reportFormat =>
      if (ReportFormat.ofName? value).isSome then none
      else some .valueValidation

inductive OptionKind
  | help
  | version
  /-- It stands alone and may be given once. -/
  | switch
  /-- It stands alone and is counted. -/
  | counter
  /-- It has a value and may be given once. -/
  | single (rule : ValueRule)
  /-- It has values and may be given repeatedly; a split value stands for the
  pieces between its commas. -/
  | list (rule : ValueRule) (isSplit : Bool)
deriving DecidableEq, Repr

/-- Does the option have a value? -/
def OptionKind.takesValue : OptionKind → Bool
  | .single _ | .list _ _ => true
  | _ => false

/-- An option with its long name and the letter that is short for it, or an
operand. -/
structure OptionSpec where
  name : Text
  letter : Option Char
  kind : OptionKind
deriving DecidableEq, Repr

/-- What may stand on one level of a command line. -/
structure Level where
  options : List OptionSpec
  operand : Option OptionSpec := none
  requiresOperand : Bool := false
  /-- Options that exclude each other. -/
  conflicts : List (Text × Text) := []
  /-- The words that end the level. -/
  commands : List Text := []

/-- The option with a long name. -/
def Level.option? (level : Level) (name : Text) : Option OptionSpec :=
  level.options.find? fun spec => spec.name = name

/-- The option with a letter. -/
def Level.letter? (level : Level) (letter : Char) : Option OptionSpec :=
  level.options.find? fun spec => spec.letter = some letter

/-- An option or operand that was given, with its values. -/
structure Occurrence where
  name : Text
  values : List Text
deriving DecidableEq, Repr

/-- What was given on a level, in order. -/
abbrev Occurrences := List Occurrence

namespace Occurrences

/-- How often was it given? -/
def count (given : Occurrences) (name : Text) : Nat :=
  given.countP fun occurrence => occurrence.name = name

def has (given : Occurrences) (name : Text) : Bool :=
  given.any fun occurrence => occurrence.name = name

/-- All values that were given for it. -/
def values (given : Occurrences) (name : Text) : List Text :=
  (given.filter fun occurrence => occurrence.name = name).flatMap (·.values)

/-- The value that was given for it. -/
def value? (given : Occurrences) (name : Text) : Option Text :=
  (given.values name).getLast?

end Occurrences

/-- The rule that the occurrences on a level break, if they break one. -/
def Level.violation? (level : Level) (given : Occurrences) :
    Option UsageProblem :=
  if level.conflicts.any fun (one, other) =>
      given.has one && given.has other then
    some .argumentConflict
  else
    match level.operand with
    | some operand =>
        if level.requiresOperand && !given.has operand.name then
          some .missingRequiredArgument
        else none
    | none => none

end CommandLine

end AccessAudit
