import AccessAudit.Text.Utf8

/-!
# Paths

A path is a list of bytes, written as segments between slashes.  Doubled and
trailing slashes mean nothing, and a dot segment counts only at the start of a
relative path.  What is said here concerns the written path; no file system is
asked.
-/

namespace AccessAudit

/-- A significant part of a path. -/
inductive Component
  | root
  | current
  | parent
  | name (name : Bytes)
deriving DecidableEq, Repr

namespace Path

/-- The byte between segments. -/
abbrev slash : UInt8 := 0x2F

abbrev dot : UInt8 := 0x2E

/-- Does the path start at the root of the file system? -/
def isAbsolute (path : Bytes) : Bool :=
  Text.startsWith path [slash]

/-- How a path begins. -/
inductive Head
  | root
  | current
  | bare
deriving DecidableEq, Repr

/-- The beginning of a path and the segments after it. -/
def split (path : Bytes) : Head × List Bytes :=
  match Text.pieces slash path with
  | [] => (.bare, [])
  | first :: rest =>
      if isAbsolute path then (.root, rest)
      else if first = [dot] then (.current, rest)
      else if path.isEmpty then (.bare, [])
      else (.bare, first :: rest)

/-- Does a segment after the beginning stand for nothing? -/
def isIdle (segment : Bytes) : Bool :=
  segment.isEmpty || segment == [dot]

/-- The component of a significant segment. -/
def ofSegment (segment : Bytes) : Component :=
  if segment = [dot, dot] then .parent else .name segment

/-- The component that the beginning contributes. -/
def Head.components : Head → List Component
  | .root => [.root]
  | .current => [.current]
  | .bare => []

def components (path : Bytes) : List Component :=
  let (head, segments) := split path
  head.components ++
    (segments.filter fun segment => !isIdle segment).map ofSegment

/-- Write a beginning with the segments after it. -/
def Head.write : Head → List Bytes → Bytes
  | .root, segments => slash :: Text.joinWith [slash] segments
  | .current, segments => dot :: segments.flatMap (slash :: ·)
  | .bare, segments => Text.joinWith [slash] segments

/-- The path without its last component, as it is written; idle segments at
its end are dropped.  The root and the empty path have no parent. -/
def parent? (path : Bytes) : Option Bytes :=
  let (head, segments) := split path
  let dropIdle (backwards : List Bytes) := backwards.dropWhile isIdle
  match dropIdle segments.reverse with
  | _ :: before => some (head.write (dropIdle before).reverse)
  | [] => if head = .current then some [] else none

/-- The path and its parents, nearest first; `fuel` bounds their number. -/
def ancestorsWithin : (fuel : Nat) → Bytes → List Bytes
  | 0, path => [path]
  | fuel + 1, path =>
      match parent? path with
      | some parent => path :: ancestorsWithin fuel parent
      | none => [path]

/-- The path and its parents, nearest first. -/
def ancestors (path : Bytes) : List Bytes :=
  ancestorsWithin path.length path

/-- A path taken from another one.  An absolute path stays as it is. -/
def join (base path : Bytes) : Bytes :=
  if isAbsolute path then path
  else if base.isEmpty || Text.endsWith base [slash] then base ++ path
  else base ++ slash :: path

/-- The name of the last component, if it is a name. -/
def fileName? (path : Bytes) : Option Bytes :=
  match (components path).getLast? with
  | some (.name name) => some name
  | _ => none

/-- What follows the last dot of the file name.  A dot that begins the name
does not count. -/
def extension? (path : Bytes) : Option Bytes :=
  match fileName? path with
  | none => none
  | some name =>
      match Text.pieces dot name with
      | [] | [_] | [[], _] => none
      | parts => parts.getLast?

/-- The components that follow those of `base`, if the path begins with all
of them. -/
def componentsBelow? (base path : Bytes) : Option (List Component) :=
  let start := components base
  let all := components path
  if start.isPrefixOf all then some (all.drop start.length) else none

/-- Components in the form used in manifests: names and parent segments
between slashes.  What is malformed in a name is replaced. -/
def manifestForm (components : List Component) : Text :=
  Text.joinWith "/" (components.filterMap fun
    | .name name => some (Utf8.decodeLossy name)
    | .parent => some ".."
    | .root | .current => none)

/-- A path in the form used in manifests. -/
def toManifest (path : Bytes) : Text :=
  manifestForm (components path)

/-- A path in manifest form, relative to `base` if it lies below. -/
def toManifestFrom (base path : Bytes) : Text :=
  manifestForm ((componentsBelow? base path).getD (components path))

end Path

/-- Insert a text into an ascending list, unless it is there. -/
def insertAscending (text : Text) : List Text → List Text
  | [] => [text]
  | first :: rest =>
      if text = first then first :: rest
      else if text < first then text :: first :: rest
      else first :: insertAscending text rest

/-- The manifest paths of scanned files: relative to `base`, ascending, and
each once. -/
def manifestPaths (base : Bytes) (files : List Bytes) : List Text :=
  ((files.map (Path.toManifestFrom base)).filter (· ≠ [])).foldr
    insertAscending []

example : Path.parent? (Utf8.encode "a/./b/") = some (Utf8.encode "a") := by
  decide +kernel

example : Path.parent? (Utf8.encode "./x") = some (Utf8.encode ".") := by
  decide +kernel

example :
    Path.extension? (Utf8.encode "a/.b.c") = some (Utf8.encode "c") := by
  decide +kernel

example : Path.extension? (Utf8.encode "a/.b") = none := by decide +kernel

end AccessAudit
