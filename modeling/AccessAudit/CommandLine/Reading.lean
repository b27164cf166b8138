import AccessAudit.CommandLine.Level

/-!
# Reading command lines

The arguments of a level are read one after the other.  The latest option or
operand waits for its values, and is settled when the next one begins or the
level ends.  An argument that is not known at all is reported before problems
with what is waiting.
-/

namespace AccessAudit

namespace CommandLine

/-- The form of an argument. -/
inductive Form
  /-- Two hyphens: all that follows are operands. -/
  | separator
  /-- A long name, perhaps with a value after an equals sign. -/
  | long (name : Text) (value : Option Text)
  /-- Letters after one hyphen. -/
  | letters (letters : Text)
  | plain
deriving DecidableEq, Repr

/-- A long name and the value after the first equals sign. -/
def splitLong (text : Text) : Text × Option Text :=
  match text.dropWhile (· ≠ '=') with
  | [] => (text, none)
  | _ :: value => (text.takeWhile (· ≠ '='), some value)

/-- The form of an argument. -/
def Form.ofArgument : Text → Form
  | ['-', '-'] => .separator
  | '-' :: '-' :: rest =>
      let (name, value) := splitLong rest
      .long name value
  | '-' :: letter :: rest => .letters (letter :: rest)
  | _ => .plain

/-- How far a level is read. -/
structure Reading where
  /-- What is settled, in order. -/
  given : Occurrences := []
  /-- What is not settled yet, with its values. -/
  waiting : Option (OptionSpec × List Text) := none
  /-- Is the next plain argument the value of what is waiting? -/
  wantsValue : Bool := false
  /-- Is the place of a single operand taken? -/
  hasOperand : Bool := false

namespace Reading

/-- Settle an occurrence with its values. -/
def settleWith (reading : Reading) (spec : OptionSpec) (values : List Text) :
    Except UsageProblem Reading :=
  let added (values : List Text) : Reading :=
    { reading with given := reading.given ++ [⟨spec.name, values⟩] }
  let checked (rule : ValueRule) (values : List Text) :=
    match values.findSome? rule.problem? with
    | some problem => Except.error problem
    | none => .ok (added values)
  match spec.kind with
  | .help => .error .help
  | .version => .error .version
  | .switch =>
      if reading.given.has spec.name then .error .argumentConflict
      else .ok (added [])
  | .counter => .ok (added [])
  | .single rule =>
      if values.isEmpty then .error .invalidValue
      else if reading.given.has spec.name then .error .argumentConflict
      else checked rule values
  | .list rule isSplit =>
      if values.isEmpty then .error .invalidValue
      else
        checked rule
          (if isSplit then values.flatMap (Text.pieces ',') else values)

/-- Settle what is waiting. -/
def settle (reading : Reading) : Except UsageProblem Reading :=
  let rest := { reading with waiting := none, wantsValue := false }
  match reading.waiting with
  | none => .ok rest
  | some (spec, values) => rest.settleWith spec values

/-- Settle what is waiting and then an occurrence. -/
def occur (reading : Reading) (spec : OptionSpec) (values : List Text) :
    Except UsageProblem Reading :=
  match reading.settle with
  | .error problem => .error problem
  | .ok settled => settled.settleWith spec values

/-- Let an option or operand wait. -/
def wait (reading : Reading) (spec : OptionSpec) (values : List Text) :
    Except UsageProblem Reading :=
  match reading.settle with
  | .error problem => .error problem
  | .ok settled =>
      .ok { settled with
        waiting := some (spec, values)
        wantsValue := values.isEmpty }

def readLong (level : Level) (reading : Reading) (name : Text)
    (value : Option Text) : Except UsageProblem Reading :=
  match level.option? name with
  | none => .error .unknownArgument
  | some spec =>
      match value with
      | some value =>
          if spec.kind.takesValue then reading.occur spec [value]
          else .error .tooManyValues
      | none =>
          if spec.kind.takesValue then reading.wait spec []
          else reading.occur spec []

/-- Read letters.  What follows the letter of an option with a value is its
value, where an equals sign in front does not count. -/
def readLetters (level : Level) (reading : Reading) :
    Text → Except UsageProblem Reading
  | [] => .ok reading
  | letter :: rest =>
      match level.letter? letter with
      | none => .error .unknownArgument
      | some spec =>
          if spec.kind.takesValue then
            match rest with
            | [] => reading.wait spec []
            | '=' :: value => reading.occur spec [value]
            | value => reading.occur spec [value]
          else
            match reading.occur spec [] with
            | .error problem => .error problem
            | .ok next => readLetters level next rest

/-- The problem with an operand on a level that has none. -/
def unexpectedOperand (level : Level) (afterSeparator : Bool)
    (argument : Text) : UsageProblem :=
  if level.commands.isEmpty then .unknownArgument
  else if afterSeparator && level.commands.contains argument then
    .unknownArgument
  else .invalidSubcommand

def readOperand (level : Level) (afterSeparator : Bool) (reading : Reading)
    (argument : Text) : Except UsageProblem Reading :=
  match level.operand with
  | none => .error (unexpectedOperand level afterSeparator argument)
  | some spec =>
      match spec.kind, reading.waiting with
      | .list _ _, some (waiting, values) =>
          if waiting.name = spec.name then
            .ok { reading with waiting := some (spec, values ++ [argument]) }
          else reading.wait spec [argument]
      | .list _ _, none => reading.wait spec [argument]
      | _, _ =>
          if reading.hasOperand then .error .unknownArgument
          else
            match reading.wait spec [argument] with
            | .error problem => .error problem
            | .ok next => .ok { next with hasOperand := true }

/-- Read an argument that is neither an option nor a separator. -/
def readPlain (level : Level) (reading : Reading) (argument : Text) :
    Except UsageProblem Reading :=
  match reading.waiting, reading.wantsValue with
  | some (spec, values), true =>
      .ok { reading with
        waiting := some (spec, values ++ [argument])
        wantsValue := false }
  | _, _ => reading.readOperand level false argument

end Reading

/-- Read the arguments of a level, up to a command if the level has commands.
The answer has the command and the arguments after it. -/
def readLevel (level : Level) (reading : Reading) (afterSeparator : Bool) :
    List Text → Except UsageProblem (Reading × Option (Text × List Text))
  | [] => .ok (reading, none)
  | argument :: rest =>
      let continued (next : Except UsageProblem Reading) :=
        match next with
        | .error problem => .error problem
        | .ok next => readLevel level next afterSeparator rest
      if afterSeparator then
        continued (reading.readOperand level true argument)
      else if !reading.wantsValue && level.commands.contains argument then
        .ok (reading, some (argument, rest))
      else
        match Form.ofArgument argument with
        | .separator => readLevel level reading true rest
        | .long name value => continued (reading.readLong level name value)
        | .letters letters => continued (reading.readLetters level letters)
        | .plain => continued (reading.readPlain level argument)

/-- Read a level without commands to its end. -/
def Level.read (level : Level) (arguments : List Text) :
    Except UsageProblem Occurrences :=
  match readLevel level {} false arguments with
  | .error problem => .error problem
  | .ok (reading, _) =>
      match reading.settle with
      | .error problem => .error problem
      | .ok settled =>
          match level.violation? settled.given with
          | some problem => .error problem
          | none => .ok settled.given

end CommandLine

end AccessAudit
