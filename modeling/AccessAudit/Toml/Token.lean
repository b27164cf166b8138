import AccessAudit.Text.Digit

/-!
# TOML tokens

A document is cut into marks, blanks, line ends, words and strings; comments
are dropped.  Strings are read with their escapes here, while words get their
meaning from their place.
-/

namespace AccessAudit

namespace Toml

inductive Token
  /-- One of `.`, `=`, `,`, `[`, `]`, `{` and `}`. -/
  | mark (c : Char)
  /-- Spaces and tabs. -/
  | blank (text : Text)
  | newLine
  /-- Other characters side by side. -/
  | word (text : Text)
  /-- A string without its quotes. -/
  | string (value : Text) (isMultiline : Bool)
deriving DecidableEq, Repr

def isMark (c : Char) : Bool :=
  ".=,[]\x7b\x7d".toList.contains c

/-- Is the character a space or a tab? -/
def isBlank (c : Char) : Bool :=
  c = ' ' || c = '\t'

/-- Does the character belong to a word? -/
def isWordCharacter (c : Char) : Bool :=
  !isMark c && !isBlank c && !"#\x22'\r\n".toList.contains c

/-- May the character stand in a comment or string?  Controls other than the
tab may not. -/
def isAllowed (c : Char) : Bool :=
  c = '\t' || (0x20 ≤ c.toNat && c.toNat != 0x7F)

/-- What follows a line end. -/
def afterLineEnd? : Text → Option Text
  | '\n' :: rest => some rest
  | '\r' :: '\n' :: rest => some rest
  | _ => none

def skipSpace : Text → Text
  | '\r' :: '\n' :: rest => skipSpace rest
  | c :: rest =>
      if isBlank c || c = '\n' then skipSpace rest else c :: rest
  | [] => []

/-- The character with the code that `count` digits give. -/
def readCode (count : Nat) (text : Text) : Option (Text × Text) :=
  match Text.readFixed? 16 count text with
  | some (code, rest) =>
      if code.isValidChar then some ([Char.ofNat code], rest) else none
  | none => none

/-- What an escape stands for, where the backslash is already read.  In a
multiline string a backslash before a line end stands for nothing, together
with the space after it. -/
def readEscape (isMultiline : Bool) : Text → Option (Text × Text)
  | 'b' :: rest => some (['\x08'], rest)
  | 't' :: rest => some (['\t'], rest)
  | 'n' :: rest => some (['\n'], rest)
  | 'f' :: rest => some (['\x0c'], rest)
  | 'r' :: rest => some (['\r'], rest)
  | 'e' :: rest => some (['\x1b'], rest)
  | '\x22' :: rest => some (['\x22'], rest)
  | '\\' :: rest => some (['\\'], rest)
  | 'x' :: rest => readCode 2 rest
  | 'u' :: rest => readCode 4 rest
  | 'U' :: rest => readCode 8 rest
  | rest =>
      if isMultiline then
        (afterLineEnd? (rest.dropWhile isBlank)).map fun after =>
          ([], skipSpace after)
      else none

/-- The end of a string.  Up to two quotes before the three that end a
multiline string belong to it. -/
def stringEnd? (quote : Char) (isMultiline : Bool) (text : Text) :
    Option (Text × Text) :=
  let count := (text.takeWhile (· = quote)).length
  if isMultiline then
    if count < 3 then none
    else
      let surplus := min (count - 3) 2
      some (Text.repeated surplus quote, text.drop (surplus + 3))
  else if count = 0 then none
  else some ([], text.drop 1)

/-- What the first characters of a text inside a string stand for. -/
def readStringPiece (quote : Char) (isMultiline : Bool) :
    Text → Option (Text × Text)
  | [] => none
  | c :: rest =>
      if c = '\\' && quote = '\x22' then readEscape isMultiline rest
      else if isAllowed c then some ([c], rest)
      else if isMultiline then
        (afterLineEnd? (c :: rest)).map fun after =>
          ((c :: rest).take ((c :: rest).length - after.length), after)
      else none

/-- Read the rest of a string; `fuel` bounds the number of its pieces. -/
def readStringRest (quote : Char) (isMultiline : Bool) :
    (fuel : Nat) → Text → Option (Text × Text)
  | 0, _ => none
  | fuel + 1, text =>
      match stringEnd? quote isMultiline text with
      | some found => some found
      | none =>
          match readStringPiece quote isMultiline text with
          | none => none
          | some (piece, rest) =>
              (readStringRest quote isMultiline fuel rest).map
                fun (value, after) => (piece ++ value, after)

/-- Read a string, where the first quote is already read.  A line end at the
start of a multiline string is dropped. -/
def readString (quote : Char) (text : Text) : Option (Token × Text) :=
  if Text.startsWith text [quote, quote] then
    let content := text.drop 2
    (readStringRest quote true (text.length + 1)
        ((afterLineEnd? content).getD content)).map
      fun (value, rest) => (.string value true, rest)
  else
    (readStringRest quote false (text.length + 1) text).map
      fun (value, rest) => (.string value false, rest)

/-- Read a token, if there is one in front. -/
def readToken (c : Char) (rest : Text) : Option (Token × Text) :=
  if isMark c then some (.mark c, rest)
  else if isBlank c then
    some (.blank (c :: rest.takeWhile isBlank), rest.dropWhile isBlank)
  else if c = '\x22' || c = '\x27' then readString c rest
  else if isWordCharacter c then
    some (.word (c :: rest.takeWhile isWordCharacter),
      rest.dropWhile isWordCharacter)
  else (afterLineEnd? (c :: rest)).map (Token.newLine, ·)

/-- The text after a comment, if its characters are allowed. -/
def afterComment? (text : Text) : Option Text :=
  match text.dropWhile isAllowed with
  | [] => some []
  | rest => (afterLineEnd? rest).map fun _ => rest

/-- Cut a text into tokens; `fuel` bounds their number. -/
def readTokens : (fuel : Nat) → Text → Option (List Token)
  | _, [] => some []
  | 0, _ => none
  | fuel + 1, c :: rest =>
      if c = '#' then
        match afterComment? rest with
        | some rest => readTokens fuel rest
        | none => none
      else
        match readToken c rest with
        | some (token, rest) => (readTokens fuel rest).map (token :: ·)
        | none => none

/-- The tokens of a document.  A byte-order mark in front is dropped. -/
def tokens? (text : Text) : Option (List Token) :=
  let text :=
    match text with
    | '\ufeff' :: rest => rest
    | text => text
  readTokens text.length text

end Toml

end AccessAudit
