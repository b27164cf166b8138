import AccessAudit.Glob.Parser
import AccessAudit.Path
import AccessAudit.Text.WhiteSpace

/-!
# Ignore rules

The rules written in ignore files, one a line.  A rule ignores what matches
its pattern or, after an exclamation mark, brings it back.  In one file the
last matching rule counts; among files the nearest directory counts, and
`.ignore` comes before `.gitignore` and that before `.git/info/exclude`.  The
rules that a user has for all directories come last.
-/

namespace AccessAudit

/-- One line of an ignore file. -/
structure IgnoreRule where
  pattern : Glob.Pattern
  /-- The rule brings files back. -/
  restores : Bool
  /-- The rule is about directories only. -/
  onlyDirectories : Bool

/-- What rules say about a path. -/
inductive IgnoreVerdict
  | silent
  | ignored
  | restored
deriving DecidableEq, Repr

namespace IgnoreRule

/-- The parts of a rule before its pattern is read. -/
structure Draft where
  pattern : Text
  restores : Bool
  onlyDirectories : Bool
  anchored : Bool

/-- Take the marks off the start of a line: an escaped first character, the
exclamation mark, and the slash that anchors the pattern. -/
def dropMarks (line : Text) : Draft :=
  match line with
  | '\\' :: '!' :: rest => ⟨'!' :: rest, false, false, false⟩
  | '\\' :: '#' :: rest => ⟨'#' :: rest, false, false, false⟩
  | '!' :: '/' :: rest => ⟨rest, true, false, true⟩
  | '!' :: rest => ⟨rest, true, false, false⟩
  | '/' :: rest => ⟨rest, false, false, true⟩
  | line => ⟨line, false, false, false⟩

/-- Take off a slash at the end, with a backslash before it. -/
def dropFinalSlash (draft : Draft) : Draft :=
  if Text.endsWith draft.pattern "/" then
    let body := draft.pattern.dropLast
    { draft with
      pattern := if Text.endsWith body "\\" then body.dropLast else body
      onlyDirectories := true }
  else draft

/-- A pattern without a slash matches at any depth, and one that ends in
`/**` does not match the directory itself. -/
def complete (draft : Draft) : Text :=
  let body := draft.pattern
  let recursive := Text.startsWith body "**/" || body == "**".toList
  let deep :=
    if !draft.anchored && !body.contains '/' && !recursive then
      "**/" ++ body
    else body
  if Text.endsWith deep "/**" then deep ++ "/*" else deep

/-- The rule on a line.  Comments, blank lines and lines that hold no pattern
give none. -/
def ofLine? (line : Text) : Option IgnoreRule :=
  if Text.startsWith line "#" then none
  else
    let line :=
      if Text.endsWith line "\\ " then line else Text.trimEnd line
    if line.isEmpty then none
    else
      let draft := dropFinalSlash (dropMarks line)
      match Glob.parseWith true (complete draft) with
      | .ok pattern => some ⟨pattern, draft.restores, draft.onlyDirectories⟩
      | .error _ => none

/-- The lines of an ignore file as bytes, without their ends. -/
def byteLines : Bytes → List Bytes
  | [] => []
  | byte :: rest =>
      if byte = 10 then [] :: byteLines rest
      else
        match byteLines rest with
        | [] => [[byte]]
        | line :: lines =>
            (if byte = 13 && line.isEmpty && rest.head? = some 10 then line
              else byte :: line) :: lines

/-- The text of lines, up to the first that is not well-formed. -/
def decodeLines : List Bytes → List Text
  | [] => []
  | line :: rest =>
      match Utf8.decode? line with
      | some text => text :: decodeLines rest
      | none => []

/-- The rules in an ignore file.  Byte order marks at its start are
dropped. -/
def ofFile (content : Bytes) : List IgnoreRule :=
  match decodeLines (byteLines content) with
  | [] => []
  | first :: rest =>
      (first.dropWhile (· = '\uFEFF') :: rest).filterMap ofLine?

/-- Does the rule speak about the path? -/
def concerns (rule : IgnoreRule) (path : Bytes) (isDirectory : Bool) : Bool :=
  Glob.isMatch .literal rule.pattern path &&
    (!rule.onlyDirectories || isDirectory)

/-- What the rules of one file say about a path: the last one counts. -/
def judge (rules : List IgnoreRule) (path : Bytes) (isDirectory : Bool) :
    IgnoreVerdict :=
  match rules.reverse.find? (·.concerns path isDirectory) with
  | none => .silent
  | some rule => if rule.restores then .restored else .ignored

end IgnoreRule

/-- The first of two verdicts, unless it is silent. -/
def IgnoreVerdict.orElse (first second : IgnoreVerdict) : IgnoreVerdict :=
  if first = .silent then second else first

/-- Take a dot segment off the start of a path. -/
def dropCurrent (path : Bytes) : Bytes :=
  if Text.startsWith path [Path.dot, Path.slash] then path.drop 2 else path

/-- A path relative to the directory of rules, where it is written below
it. -/
def relativeTo (directory path : Bytes) : Bytes :=
  if Path.components directory = [.current] ||
      !path.contains Path.slash then
    path
  else if Text.startsWith path directory then
    let below := path.drop directory.length
    if Text.startsWith below [Path.slash] then below.drop 1 else below
  else path

/-- The rules of a user, and the directory from which they are understood. -/
structure UserRules where
  directory : Bytes
  rules : List IgnoreRule

/-- What the rules of a user say about a path. -/
def UserRules.judge (user : UserRules) (path : Bytes) (isDirectory : Bool) :
    IgnoreVerdict :=
  IgnoreRule.judge user.rules (relativeTo user.directory path) isDirectory

/-- The ignore files of one directory. -/
structure IgnoreLevel where
  directory : Bytes
  ignore : List IgnoreRule
  gitignore : List IgnoreRule
  exclude : List IgnoreRule

namespace IgnoreLevel

/-- Read the ignore files of a directory. -/
def ofDirectory (read : Bytes → Option Bytes) (directory : Bytes) :
    IgnoreLevel :=
  let rules (name : Text) :=
    match read (Path.join directory name) with
    | some content => IgnoreRule.ofFile content
    | none => []
  ⟨dropCurrent directory, rules ".ignore", rules ".gitignore",
    rules ".git/info/exclude"⟩

/-- The verdict of the nearest directory that speaks, for one kind of ignore
file. -/
def judgeAll (kind : IgnoreLevel → List IgnoreRule)
    (levels : List IgnoreLevel) (path : Bytes) (isDirectory : Bool) :
    IgnoreVerdict :=
  levels.foldr
    (fun level later =>
      (IgnoreRule.judge (kind level) (relativeTo level.directory path)
        isDirectory).orElse later)
    .silent

/-- Is a path ignored by the given directories, nearest first, or else by the
user? -/
def isIgnored (user : UserRules) (levels : List IgnoreLevel) (path : Bytes)
    (isDirectory : Bool) : Bool :=
  let path := dropCurrent path
  let verdict :=
    (judgeAll ignore levels path isDirectory).orElse
      ((judgeAll gitignore levels path isDirectory).orElse
        ((judgeAll exclude levels path isDirectory).orElse
          (user.judge path isDirectory)))
  verdict == .ignored

end IgnoreLevel

end AccessAudit
