import AccessAudit.Toml.Scalar
import AccessAudit.Toml.Table
import AccessAudit.Toml.Token

/-!
# TOML documents

A document is read from its tokens in one pass: pairs at the top, then
sections of pairs under headers.  `Document.parse?` answers nothing for a
text that is no document.
-/

namespace AccessAudit

namespace Toml

/-- How deep arrays and inline tables may be nested. -/
def depthLimit : Nat := 80

def dropBlanks : List Token → List Token
  | .blank _ :: rest => dropBlanks rest
  | tokens => tokens

/-- Drop blanks and line ends. -/
def dropSpace : List Token → List Token
  | .blank _ :: rest => dropSpace rest
  | .newLine :: rest => dropSpace rest
  | tokens => tokens

/-! ## Keys and scalars -/

/-- May the character stand in a key without quotes? -/
def isBareKeyCharacter (c : Char) : Bool :=
  c.isAlphanum || c = '_' || c = '-'

/-- The part of a key that a token gives. -/
def keyPart? : Token → Option Text
  | .word name => if name.all isBareKeyCharacter then some name else none
  | .string name false => some name
  | _ => none

/-- The parts of a key between dots; `fuel` bounds their number. -/
def readKeyParts : (fuel : Nat) → List Token →
    Option (List Text × List Token)
  | 0, _ | _, [] => none
  | fuel + 1, token :: rest =>
      match keyPart? token with
      | none => none
      | some part =>
          match dropBlanks rest with
          | .mark '.' :: rest =>
              (readKeyParts fuel (dropBlanks rest)).map
                fun (parts, rest) => (part :: parts, rest)
          | rest => some ([part], rest)

/-- A key, and what follows it and the blanks after it. -/
def readKey (tokens : List Token) : Option (Key × List Token) :=
  match readKeyParts tokens.length tokens with
  | some (parts, rest) =>
      parts.getLast?.map fun name => (⟨parts.dropLast, name⟩, rest)
  | none => none

/-- The text of words with the dots between them. -/
def readWords : List Token → Text × List Token
  | .word text :: rest =>
      let (more, rest) := readWords rest
      (text ++ more, rest)
  | .mark '.' :: rest =>
      let (more, rest) := readWords rest
      ('.' :: more, rest)
  | tokens => ([], tokens)

/-- A scalar without quotes.  One space may stand between a date and a
time. -/
def readScalar (tokens : List Token) : Option (Value × List Token) :=
  let (text, rest) := readWords tokens
  let alone := (scalar? text).map (·, rest)
  match afterDate? text, rest with
  | some [], .blank [' '] :: more =>
      let (time, rest) := readWords more
      let joined := text ++ ' ' :: time
      if isDateTime joined then some (.dateTime joined, rest) else alone
  | _, _ => alone

/-! ## Values -/

mutual

/-- A value, with at most `depth` levels of nesting; `fuel` bounds the number
of tokens. -/
def readValue : (fuel depth : Nat) → List Token →
    Option (Value × List Token)
  | 0, _, _ => none
  | _ + 1, _, .string value _ :: rest => some (.string value, rest)
  | fuel + 1, depth, .mark '[' :: rest =>
      if depth = 0 then none else readItems fuel (depth - 1) [] rest
  | fuel + 1, depth, .mark '\x7b' :: rest =>
      if depth = 0 then none else readInlinePairs fuel (depth - 1) [] rest
  | _ + 1, _, tokens => readScalar tokens

/-- The items of an array after some items, the last one first. -/
def readItems : (fuel depth : Nat) → List Value → List Token →
    Option (Value × List Token)
  | 0, _, _, _ => none
  | fuel + 1, depth, items, tokens =>
      match dropSpace tokens with
      | .mark ']' :: rest => some (.array items.reverse, rest)
      | tokens =>
          match readValue fuel depth tokens with
          | none => none
          | some (item, rest) =>
              match dropSpace rest with
              | .mark ']' :: rest =>
                  some (.array (item :: items).reverse, rest)
              | .mark ',' :: rest =>
                  readItems fuel depth (item :: items) rest
              | _ => none

/-- The pairs of an inline table after some entries. -/
def readInlinePairs : (fuel depth : Nat) → Entries → List Token →
    Option (Value × List Token)
  | 0, _, _, _ => none
  | fuel + 1, depth, entries, tokens =>
      match dropSpace tokens with
      | .mark '\x7d' :: rest => some (.table (finishEntries entries), rest)
      | tokens =>
          match readKey tokens with
          | some (key, .mark '=' :: rest) =>
              match readValue fuel depth (dropBlanks rest) with
              | none => none
              | some (value, rest) =>
                  match entries.insertPair? key value with
                  | none => none
                  | some entries =>
                      match dropSpace rest with
                      | .mark '\x7d' :: rest =>
                          some (.table (finishEntries entries), rest)
                      | .mark ',' :: rest =>
                          readInlinePairs fuel depth entries rest
                      | _ => none
          | _ => none

end

/-! ## Sections -/

/-- What follows the end of a line. -/
def afterLine? (tokens : List Token) : Option (List Token) :=
  match dropBlanks tokens with
  | [] => some []
  | .newLine :: rest => some rest
  | _ => none

/-- A pair with the end of its line. -/
def readPair (tokens : List Token) : Option ((Key × Value) × List Token) :=
  match readKey tokens with
  | some (key, .mark '=' :: rest) =>
      let rest := dropBlanks rest
      match readValue (2 * rest.length + 1) depthLimit rest with
      | some (value, rest) => (afterLine? rest).map ((key, value), ·)
      | none => none
  | _ => none

/-- Pairs up to the next header or the end; `fuel` bounds their number. -/
def readPairs : (fuel : Nat) → List Token →
    Option (List (Key × Value) × List Token)
  | 0, tokens => some ([], tokens)
  | fuel + 1, tokens =>
      match dropSpace tokens with
      | [] => some ([], [])
      | .mark '[' :: rest => some ([], .mark '[' :: rest)
      | tokens =>
          match readPair tokens with
          | none => none
          | some (pair, rest) =>
              (readPairs fuel rest).map
                fun (pairs, rest) => (pair :: pairs, rest)

/-- A header: whether its brackets are double, and its key. -/
def readHeader (tokens : List Token) :
    Option (Bool × Key × List Token) :=
  match tokens with
  | .mark '[' :: .mark '[' :: rest =>
      match readKey (dropBlanks rest) with
      | some (key, .mark ']' :: .mark ']' :: rest) =>
          (afterLine? rest).map (true, key, ·)
      | _ => none
  | .mark '[' :: rest =>
      match readKey (dropBlanks rest) with
      | some (key, .mark ']' :: rest) => (afterLine? rest).map (false, key, ·)
      | _ => none
  | _ => none

/-- Read sections into the entries of the document; `fuel` bounds their
number. -/
def readSections : (fuel : Nat) → Entries → List Token → Option Entries
  | 0, entries, tokens => if tokens.isEmpty then some entries else none
  | fuel + 1, entries, tokens =>
      if tokens.isEmpty then some entries
      else
        match readHeader tokens with
        | none => none
        | some (isSeries, key, rest) =>
            match readPairs rest.length rest with
            | none => none
            | some (pairs, rest) =>
                let added :=
                  if isSeries then entries.insertInSeries? key pairs
                  else entries.insertTable? key pairs
                match added with
                | some entries => readSections fuel entries rest
                | none => none

/-- The document that a text writes, if it writes one. -/
def Document.parse? (text : Text) : Option Document :=
  match tokens? text with
  | none => none
  | some tokens =>
      match readPairs tokens.length tokens with
      | none => none
      | some (pairs, rest) =>
          match Entries.insertPairs? [] pairs with
          | none => none
          | some entries =>
              (readSections rest.length entries rest).map finishEntries

end Toml

end AccessAudit
