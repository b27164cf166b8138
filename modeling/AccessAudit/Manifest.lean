import AccessAudit.Category.OfPath
import AccessAudit.Text.DecimalDigit

/-!
# Manifests

A manifest lists one relative path a line, each after a number and an arrow,
as in `12→backend/routes/hr.js`.  Strict reading requires the number; lenient
reading takes a line without it as a path.
-/

namespace AccessAudit

/-- Must a manifest line carry a number? -/
inductive ManifestMode
  | strict
  | lenient
deriving DecidableEq, Repr

/-- A usable manifest line: its line number, from 1, and its path. -/
structure ManifestEntry where
  index : Nat
  path : Text
deriving DecidableEq, Repr

/-- What a manifest line turns out to be. -/
inductive ManifestLine
  | entry (entry : ManifestEntry)
  | blank
  | malformed
deriving DecidableEq, Repr

/-- The entries of a manifest, the numbers of its malformed lines, and the
number of all its lines. -/
structure Manifest where
  entries : List ManifestEntry
  malformed : List Nat
  lineCount : Nat
deriving DecidableEq, Repr

/-- What follows the arrow of a numbered line.  White space may precede the
number, and the body of a numbered line holds no line feed. -/
def numberedBody? (raw : Text) : Option Text :=
  let number := Text.trimStart raw
  match number.takeWhile Text.isDecimalDigit,
      number.dropWhile Text.isDecimalDigit with
  | _ :: _, '→' :: body => if body.contains '\n' then none else some body
  | _, _ => none

/-- Read the path of a line that is not skipped outright. -/
def ManifestLine.ofBody (index : Nat) (body : Text) (mode : ManifestMode) :
    ManifestLine :=
  match normalizePath body, mode with
  | [], .strict => .malformed
  | [], .lenient => .blank
  | path, _ => .entry ⟨index, path⟩

def ManifestLine.parse (index : Nat) (raw : Text) (mode : ManifestMode) :
    ManifestLine :=
  match numberedBody? raw with
  | some body => ofBody index body mode
  | none =>
      if (Text.trim raw).isEmpty then .blank
      else if mode = .strict then .malformed
      else ofBody index raw mode

namespace Manifest

/-- The manifest of no line at all. -/
def empty : Manifest := ⟨[], [], 0⟩

/-- Read lines numbered from `index` on. -/
def ofLines (mode : ManifestMode) (index : Nat) : List Text → Manifest
  | [] => ⟨[], [], index - 1⟩
  | raw :: rest =>
      let later := ofLines mode (index + 1) rest
      match ManifestLine.parse index raw mode with
      | .entry entry => { later with entries := entry :: later.entries }
      | .malformed => { later with malformed := index :: later.malformed }
      | .blank => later

def parse (text : Text) (mode : ManifestMode) : Manifest :=
  ofLines mode 1 (Text.lines text)

/-- Number paths from `index` on, one line each. -/
def formatFrom (index : Nat) : List Text → Text
  | [] => []
  | path :: rest =>
      Text.line (Text.ofNat index ++ "→" ++ path) ++
        formatFrom (index + 1) rest

/-- Write paths as a numbered manifest. -/
def format (paths : List Text) : Text :=
  formatFrom 1 paths

end Manifest

end AccessAudit
