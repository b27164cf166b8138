import AccessAudit.Glob

/-!
# Reading glob patterns

A pattern is read in one pass with a stack of open alternatives.  Reading
fails only for classes and groups that do not close, ranges that run
backwards, and a backslash at the end.
-/

namespace AccessAudit

namespace Glob

/-- Why a text is no glob pattern. -/
inductive Problem
  | unclosedClass
  | invalidRange (first last : Char)
  | unclosedAlternates
  | unopenedAlternates
  | danglingEscape
deriving DecidableEq, Repr

def Problem.message : Problem → Text
  | .unclosedClass => "unclosed character class; missing ']'"
  | .invalidRange first last =>
      "invalid range; '" ++ [first] ++ "' > '" ++ [last] ++ "'"
  | .unclosedAlternates =>
      "unclosed alternate group; missing '\x7d' " ++
      "(maybe escape '\x7b' with '[\x7b]'?)"
  | .unopenedAlternates =>
      "unopened alternate group; missing '\x7b' " ++
      "(maybe escape '\x7d' with '[\x7d]'?)"
  | .danglingEscape => "dangling '\\'"

/-- A character class while it is read: its ranges, the last one first, and
whether a hyphen waits for the end of a range. -/
structure OpenClass where
  ranges : List (Char × Char)
  isFirst : Bool
  inRange : Bool

/-- Close the latest range with a character. -/
def OpenClass.extend (state : OpenClass) (c : Char) :
    Except Problem OpenClass :=
  match state.ranges with
  | (first, _) :: others =>
      if c < first then .error (.invalidRange first c)
      else .ok ⟨(first, c) :: others, false, false⟩
  | [] => .ok ⟨[(c, c)], false, false⟩

/-- One more character of a class. -/
def OpenClass.add (state : OpenClass) (c : Char) : Except Problem OpenClass :=
  if state.inRange then state.extend c
  else if c = '-' && !state.isFirst then
    .ok { state with inRange := true }
  else .ok ⟨(c, c) :: state.ranges, false, false⟩

/-- Read the members of a class up to its closing bracket.  The answer has
the ranges and what follows the bracket, or nothing if no bracket closes the
class. -/
def readClass (state : OpenClass) :
    Text → Except Problem (Option (List (Char × Char) × Text))
  | [] => .ok none
  | c :: rest =>
      if c = ']' && !state.isFirst then
        let ranges :=
          if state.inRange then ('-', '-') :: state.ranges else state.ranges
        .ok (some (ranges.reverse, rest))
      else
        match state.add c with
        | .error problem => .error problem
        | .ok next => readClass next rest

/-- A group of alternatives that is still open: finished branches, the last
one first. -/
abbrev OpenGroup := List Pattern

/-- The state of reading: the items of the current branch, the last one
first; the finished branches of every open group, innermost first, each with
the branch that the group interrupts; the previous character; and whether a
bracket has been found that no other closes. -/
structure Reader where
  current : List Token
  groups : List (OpenGroup × List Token)
  previous : Option Char
  literalBrackets : Bool

namespace Reader

/-- Before the first character. -/
def initial : Reader := ⟨[], [], none, false⟩

/-- Append an item to the current branch. -/
def push (reader : Reader) (token : Token) (last : Char) : Reader :=
  { reader with current := token :: reader.current, previous := some last }

def inGroup (reader : Reader) : Bool :=
  !reader.groups.isEmpty

/-- Two stars that do not stand for directories. -/
def plainStars (reader : Reader) : Reader :=
  (reader.push .zeroOrMore '*').push .zeroOrMore '*'

/-- Replace the slash before two stars by an item for directories, unless
directories stand there already. -/
def replaceSlash (reader : Reader) (token : Token) (last : Char) : Reader :=
  match reader.current with
  | .recursiveStart :: _ | .recursiveEnd :: _ =>
      { reader with previous := some last }
  | _ :: before =>
      { reader with current := token :: before, previous := some last }
  | [] => reader.push token last

/-- Two stars, where `rest` follows them.  They stand for directories if
slashes or the ends of the pattern or branch are on both sides; a slash after
them is taken along. -/
def twoStars (reader : Reader) (rest : Text) : Reader × Text :=
  if reader.current.isEmpty then
    match rest with
    | [] => (reader.push .recursiveStart '*', [])
    | '/' :: rest => (reader.push .recursiveStart '/', rest)
    | rest => (reader.plainStars, rest)
  else if reader.previous != some '/' &&
      (!reader.inGroup ||
        (reader.previous != some ',' && reader.previous != some '\x7b')) then
    (reader.plainStars, rest)
  else
    match rest with
    | [] => (reader.replaceSlash .recursiveEnd '*', [])
    | '/' :: rest => (reader.replaceSlash .recursiveBetween '/', rest)
    | c :: rest =>
        if reader.inGroup && (c = ',' || c = '\x7d') then
          (reader.replaceSlash .recursiveEnd '*', c :: rest)
        else (reader.plainStars, c :: rest)

def openGroup (reader : Reader) : Reader :=
  { reader with
    current := []
    groups := ([], reader.current) :: reader.groups
    previous := some '\x7b' }

/-- Start the next branch of the innermost group; outside of groups a comma
stands for itself. -/
def comma (reader : Reader) : Reader :=
  match reader.groups with
  | [] => reader.push (.literal ',') ','
  | (branches, outer) :: groups =>
      { reader with
        current := []
        groups := (reader.current.reverse :: branches, outer) :: groups
        previous := some ',' }

def closeGroup (reader : Reader) : Except Problem Reader :=
  match reader.groups with
  | [] => .error .unopenedAlternates
  | (branches, outer) :: groups =>
      let branches := (reader.current.reverse :: branches).reverse
      .ok { reader with
        current := .alternates branches :: outer
        groups := groups
        previous := some '\x7d' }

/-- A class, where `rest` follows its opening bracket.  A class that does not
close is refused, or the bracket stands for itself if that is allowed. -/
def charClass (allowUnclosed : Bool) (reader : Reader) (rest : Text) :
    Except Problem (Reader × Text) :=
  let (negated, members) :=
    match rest with
    | '!' :: members | '^' :: members => (true, members)
    | members => (false, members)
  match readClass ⟨[], true, false⟩ members with
  | .error problem => .error problem
  | .ok (some (ranges, after)) =>
      .ok (reader.push (.charClass negated ranges) ']', after)
  | .ok none =>
      if allowUnclosed then
        .ok ({ reader.push (.literal '[') '[' with literalBrackets := true },
          rest)
      else .error .unclosedClass

/-- Read one item, the first character of which is given. -/
def step (allowUnclosed : Bool) (reader : Reader) (c : Char) (rest : Text) :
    Except Problem (Reader × Text) :=
  if c = '?' then .ok (reader.push .any c, rest)
  else if c = '*' then
    match rest with
    | '*' :: rest => .ok (reader.twoStars rest)
    | rest => .ok (reader.push .zeroOrMore c, rest)
  else if c = '[' && !reader.literalBrackets then
    reader.charClass allowUnclosed rest
  else if c = '\x7b' then .ok (reader.openGroup, rest)
  else if c = '\x7d' then reader.closeGroup.map (·, rest)
  else if c = ',' then .ok (reader.comma, rest)
  else if c = '\\' then
    match rest with
    | [] => .error .danglingEscape
    | escaped :: rest => .ok (reader.push (.literal escaped) escaped, rest)
  else .ok (reader.push (.literal c) c, rest)

/-- Read the rest of a pattern; `fuel` bounds the number of items. -/
def run (allowUnclosed : Bool) :
    (fuel : Nat) → Reader → Text → Except Problem Reader
  | _, reader, [] => .ok reader
  | 0, reader, _ => .ok reader
  | fuel + 1, reader, c :: rest =>
      match reader.step allowUnclosed c rest with
      | .error problem => .error problem
      | .ok (reader, rest) => run allowUnclosed fuel reader rest

end Reader

/-- Read a pattern.  Every item takes at least one character, so the length
of the text bounds their number. -/
def parseWith (allowUnclosed : Bool) (text : Text) :
    Except Problem Pattern :=
  match Reader.run allowUnclosed text.length .initial text with
  | .error problem => .error problem
  | .ok reader =>
      if reader.inGroup then .error .unclosedAlternates
      else .ok reader.current.reverse

/-- Read a pattern in which every class has to close. -/
def parse (text : Text) : Except Problem Pattern :=
  parseWith false text

end Glob

end AccessAudit
