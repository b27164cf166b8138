import AccessAudit.Text.Utf8

/-!
# Glob patterns

Syntax and meaning of patterns with `*`, `?`, `**`, character classes and
alternatives.  A pattern is matched against the bytes of a whole path.
`remainders` lists what may be left of a path after a pattern has taken its
part.
-/

namespace AccessAudit

namespace Glob

inductive Token
  | literal (c : Char)
  /-- `?`: one byte. -/
  | any
  /-- `*`: any bytes. -/
  | zeroOrMore
  /-- `**/` at the start: any leading directories, or none. -/
  | recursiveStart
  /-- `/**` at the end: anything below. -/
  | recursiveEnd
  /-- `/**/` in between: any directories, or none. -/
  | recursiveBetween
  | charClass (negated : Bool) (ranges : List (Char × Char))
  | alternates (branches : List (List Token))

/-- A pattern is a list of items. -/
abbrev Pattern := List Token

def bytesOf (c : Char) : Bytes :=
  String.utf8EncodeChar c

/-- The ranges of single bytes that a range of characters stands for.  Beyond
ASCII the bytes are listed one by one, and the range runs between the two
bytes next to the hyphen. -/
def byteRanges (range : Char × Char) : List (UInt8 × UInt8) :=
  let single (bytes : Bytes) := bytes.map fun b => (b, b)
  if range.1 = range.2 then single (bytesOf range.1)
  else
    match (bytesOf range.1).getLast?, bytesOf range.2 with
    | some last, first :: rest =>
        single (bytesOf range.1).dropLast ++ (last, first) :: single rest
    | _, _ => []

/-- Is a byte in a character class? -/
def classHolds (negated : Bool) (ranges : List (Char × Char))
    (byte : UInt8) : Bool :=
  let listed := (ranges.flatMap byteRanges).any fun range =>
    range.1 ≤ byte && byte ≤ range.2
  listed != negated

/-- Does `*` or `?` match a slash? -/
inductive Separator
  | ordinary
  | literal
deriving DecidableEq, Repr

/-- May a wildcard take the byte? -/
def Separator.admits (separator : Separator) (byte : UInt8) : Bool :=
  separator == .ordinary || byte != '/'.toUInt8

/-- Keep one list of each length.  All remainders of one path are end pieces
of it, so lists of one length are equal. -/
def distinct : List Bytes → List Bytes
  | [] => []
  | rest :: others =>
      rest :: (distinct others).filter fun other =>
        other.length != rest.length

/-- All end pieces of a path that begin after admitted bytes. -/
def tailsWhile (admits : UInt8 → Bool) : Bytes → List Bytes
  | [] => [[]]
  | byte :: rest =>
      if admits byte then (byte :: rest) :: tailsWhile admits rest
      else [byte :: rest]

/-- What follows a slash: the end pieces of a path just after each of its
slashes. -/
def afterSlashes : Bytes → List Bytes
  | [] => []
  | byte :: rest =>
      if byte = '/'.toUInt8 then rest :: afterSlashes rest
      else afterSlashes rest

/-- Remove bytes at the start of a path. -/
def dropLead? (lead path : Bytes) : Option Bytes :=
  if lead.isPrefixOf path then some (path.drop lead.length) else none

/-- What a non-composite item may leave of a path. -/
def Token.leaves (separator : Separator) (token : Token) (path : Bytes) :
    List Bytes :=
  match token with
  | .literal c => (dropLead? (bytesOf c) path).toList
  | .any =>
      match path with
      | byte :: rest => if separator.admits byte then [rest] else []
      | [] => []
  | .zeroOrMore => tailsWhile separator.admits path
  | .recursiveStart => path :: afterSlashes path
  | .recursiveEnd =>
      match path with
      | byte :: rest =>
          if byte = '/'.toUInt8 then tailsWhile (fun _ => true) rest else []
      | [] => []
  | .recursiveBetween =>
      match path with
      | byte :: rest =>
          if byte = '/'.toUInt8 then rest :: afterSlashes rest else []
      | [] => []
  | .charClass negated ranges =>
      match path with
      | byte :: rest => if classHolds negated ranges byte then [rest] else []
      | [] => []
  | .alternates _ => []

mutual

/-- Does an item stand for nothing at all?  Only alternatives without any
content do. -/
def Token.isVacant : Token → Bool
  | .alternates branches => vacantBranches branches
  | _ => false

/-- Do all branches stand for nothing? -/
def vacantBranches : List Pattern → Bool
  | [] => true
  | branch :: branches => vacantPattern branch && vacantBranches branches

/-- Do all items of a pattern stand for nothing? -/
def vacantPattern : Pattern → Bool
  | [] => true
  | token :: tokens => token.isVacant && vacantPattern tokens

end

mutual

/-- What one item may leave of some paths. -/
def remaindersToken (separator : Separator) (token : Token)
    (paths : List Bytes) : List Bytes :=
  match token with
  | .alternates branches =>
      if vacantBranches branches then paths
      else distinct (remaindersBranches separator branches paths)
  | token => distinct (paths.flatMap (token.leaves separator))

/-- What any branch but the vacant ones may leave of some paths. -/
def remaindersBranches (separator : Separator) (branches : List Pattern)
    (paths : List Bytes) : List Bytes :=
  match branches with
  | [] => []
  | branch :: branches =>
      (if vacantPattern branch then []
        else remaindersPattern separator branch paths) ++
        remaindersBranches separator branches paths

/-- What a pattern may leave of some paths. -/
def remaindersPattern (separator : Separator) (pattern : Pattern)
    (paths : List Bytes) : List Bytes :=
  match pattern with
  | [] => paths
  | token :: tokens =>
      remaindersPattern separator tokens
        (remaindersToken separator token paths)

end

/-- Does a pattern match a whole path?  The pattern `**` alone matches every
path. -/
def isMatch (separator : Separator) (pattern : Pattern) (path : Bytes) :
    Bool :=
  match pattern with
  | [.recursiveStart] => true
  | _ =>
      (remaindersPattern separator pattern [path]).any List.isEmpty

end Glob

end AccessAudit
