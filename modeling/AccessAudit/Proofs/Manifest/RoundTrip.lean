import AccessAudit.Proofs.Manifest.Line
import AccessAudit.Proofs.Text.Digits
import AccessAudit.Proofs.Text.Lines

/-!
# Writing a manifest and reading it back

Canonical paths are those that a manifest can hold.  Every path read from a
manifest is canonical, and exactly the lists of canonical paths are read back
from the manifest that is written for them.
-/

namespace AccessAudit

/-- A path that a manifest line can hold: not empty, without line feed and
backslash, and with no white space at its ends. -/
structure Canonical (path : Text) : Prop where
  nonempty : path ≠ []
  noLineFeed : '\n' ∉ path
  noBackslash : '\\' ∉ path
  trimmed : Text.Trimmed path

theorem normalizePath_eq_self {path : Text} (canonical : Canonical path) :
    normalizePath path = path := by
  rw [normalizePath, Text.trim_eq_self canonical.trimmed]
  have kept : ∀ c ∈ path, (if c = '\\' then '/' else c) = c := by
    intro c member
    have different : c ≠ '\\' := fun same =>
      canonical.noBackslash (same ▸ member)
    simp [different]
  exact (List.map_congr_left kept).trans (List.map_id' path)

/-- What is not white space stays so when backslashes become slashes. -/
private theorem isWhiteSpace_of_forwardSlash {c : Char}
    (inner : Text.isWhiteSpace c = false) :
    Text.isWhiteSpace (if c = '\\' then '/' else c) = false := by
  split
  · decide
  · exact inner

theorem canonical_normalizePath {raw : Text} (oneLine : '\n' ∉ raw)
    (nonempty : normalizePath raw ≠ []) : Canonical (normalizePath raw) where
  nonempty := nonempty
  noLineFeed := by
    intro member
    obtain ⟨c, inner, replaced⟩ := List.mem_map.mp member
    split at replaced
    · cases replaced
    · subst c
      exact oneLine ((Text.trim_sublist raw).subset inner)
  noBackslash := by
    intro member
    obtain ⟨c, _, replaced⟩ := List.mem_map.mp member
    split at replaced
    · cases replaced
    · next different => exact different replaced
  trimmed := by
    have ends := Text.trimmed_trim raw
    constructor
    · intro c first
      rw [normalizePath, List.head?_map, Option.map_eq_some_iff] at first
      obtain ⟨original, head, rfl⟩ := first
      exact isWhiteSpace_of_forwardSlash (ends.head original head)
    · intro c final
      rw [normalizePath, List.getLast?_map, Option.map_eq_some_iff] at final
      obtain ⟨original, last, rfl⟩ := final
      exact isWhiteSpace_of_forwardSlash (ends.last original last)

theorem LineBody.oneLine {mode : ManifestMode} {raw body : Text}
    (lineBody : LineBody mode raw body) (oneLine : '\n' ∉ raw) :
    '\n' ∉ body := by
  cases lineBody with
  | numbered numbered =>
      cases numbered with
      | intro _ _ _ bodyOneLine => exact bodyOneLine
  | whole => exact oneLine

namespace Manifest

/-- The manifest that has the given paths on its lines, and nothing else. -/
def numbered (paths : List Text) : Manifest where
  entries := (paths.zipIdx 1).map fun line => ⟨line.2, line.1⟩
  malformed := []
  lineCount := paths.length

theorem map_path_numbered (paths : List Text) :
    (numbered paths).entries.map (·.path) = paths := by
  simp [numbered, Function.comp_def]

/-- Every entry is read from one of the lines. -/
theorem exists_line_of_mem_ofLines {mode : ManifestMode} {index : Nat}
    {raws : List Text} {entry : ManifestEntry}
    (member : entry ∈ (ofLines mode index raws).entries) :
    ∃ raw ∈ raws, ∃ number,
      ManifestLine.parse number raw mode = .entry entry := by
  induction raws generalizing index with
  | nil => simp [ofLines] at member
  | cons raw rest ih =>
      have later : entry ∈ (ofLines mode (index + 1) rest).entries →
          ∃ found ∈ raw :: rest, ∃ number,
            ManifestLine.parse number found mode = .entry entry := by
        intro inRest
        obtain ⟨found, isLine, number, read⟩ := ih inRest
        exact ⟨found, List.mem_cons_of_mem raw isLine, number, read⟩
      rw [ofLines] at member
      cases read : ManifestLine.parse index raw mode with
      | entry first =>
          simp only [read] at member
          rcases List.mem_cons.mp member with here | inRest
          · exact ⟨raw, List.mem_cons_self, index, here ▸ read⟩
          · exact later inRest
      | blank =>
          simp only [read] at member
          exact later member
      | malformed =>
          simp only [read] at member
          exact later member

theorem canonical_of_mem_entries {text : Text} {mode : ManifestMode}
    {entry : ManifestEntry} (member : entry ∈ (parse text mode).entries) :
    Canonical entry.path := by
  obtain ⟨raw, isLine, number, read⟩ := exists_line_of_mem_ofLines member
  obtain ⟨body, lineBody, nonempty, rfl⟩ :=
    ManifestLine.parse_eq_entry_iff.mp read
  have oneLine := lineBody.oneLine (Text.not_mem_of_mem_lines isLine)
  exact canonical_normalizePath oneLine nonempty

/-- The line that is written for a path. -/
def numberedLine (index : Nat) (path : Text) : Text :=
  Text.ofNat index ++ '→' :: path

theorem numbered_numberedLine {path : Text} (oneLine : '\n' ∉ path)
    (index : Nat) : Numbered path (numberedLine index path) := by
  have digits : ∀ c ∈ Text.ofNat index, Text.isDecimalDigit c = true := by
    intro c member
    exact Text.isDecimalDigit_of_isDigit (Text.isDigit_of_mem_ofNat member)
  have noSpace : ∀ c ∈ ([] : Text), Text.isWhiteSpace c = true := by simp
  exact .intro noSpace digits Nat.toDigits_ne_nil oneLine

theorem numberedLine_oneLine {path : Text} (oneLine : '\n' ∉ path)
    (index : Nat) : '\n' ∉ numberedLine index path := by
  intro member
  rcases List.mem_append.mp member with inNumber | inBody
  · exact absurd (Text.isDigit_of_mem_ofNat inNumber) (by decide)
  · rcases List.mem_cons.mp inBody with arrow | inPath
    · cases arrow
    · exact oneLine inPath

/-- A canonical path ends in no carriage return, so its line loses none. -/
theorem dropFinalReturn_numberedLine {path : Text}
    (canonical : Canonical path) (index : Nat) :
    Text.dropFinalReturn (numberedLine index path) =
      numberedLine index path := by
  have noReturn : Text.endsWith (numberedLine index path) ['\r'] = false := by
    rw [Bool.eq_false_iff]
    intro ending
    obtain ⟨front, whole⟩ := List.isSuffixOf_iff_suffix.mp ending
    have last : (numberedLine index path).getLast? = some '\r' := by
      simp [← whole]
    obtain ⟨c, rest, rfl⟩ := List.exists_cons_of_ne_nil canonical.nonempty
    have pathLast : (c :: rest).getLast? = some '\r' := by
      simpa [numberedLine, List.getLast?_append, List.getLast?_cons]
        using last
    exact absurd (canonical.trimmed.last '\r' pathLast) (by decide)
  simp [Text.dropFinalReturn, noReturn]

theorem lines_formatFrom_cons {path : Text} (canonical : Canonical path)
    (index : Nat) (rest : List Text) :
    Text.lines (formatFrom index (path :: rest)) =
      numberedLine index path ::
        Text.lines (formatFrom (index + 1) rest) := by
  have written : formatFrom index (path :: rest) =
      Text.line (numberedLine index path) ++
        formatFrom (index + 1) rest := by
    simp [formatFrom, numberedLine]
  rw [written,
    Text.lines_line_append (numberedLine_oneLine canonical.noLineFeed index),
    dropFinalReturn_numberedLine canonical]

theorem parse_numberedLine {path : Text} (canonical : Canonical path)
    (index : Nat) :
    ManifestLine.parse index (numberedLine index path) .strict =
      .entry ⟨index, path⟩ := by
  have body : LineBody .strict (numberedLine index path) path :=
    .numbered (numbered_numberedLine canonical.noLineFeed index)
  have same := normalizePath_eq_self canonical
  rw [ManifestLine.parse_eq_entry_iff]
  exact ⟨path, body, by rw [same]; exact canonical.nonempty, by rw [same]⟩

theorem ofLines_formatFrom {paths : List Text}
    (canonical : ∀ path ∈ paths, Canonical path) (index : Nat) :
    ofLines .strict index (Text.lines (formatFrom index paths)) =
      { entries := (paths.zipIdx index).map fun line => ⟨line.2, line.1⟩
        malformed := []
        lineCount := index + paths.length - 1 } := by
  induction paths generalizing index with
  | nil => simp [formatFrom, ofLines]
  | cons path rest ih =>
      have first := canonical path List.mem_cons_self
      have later := ih (fun other member =>
        canonical other (List.mem_cons_of_mem path member)) (index + 1)
      rw [lines_formatFrom_cons first, ofLines, parse_numberedLine first,
        later]
      simp only [List.zipIdx_cons, List.map_cons, List.length_cons,
        Manifest.mk.injEq, true_and]
      omega

/-- Canonical paths are read back from the manifest written for them. -/
theorem parse_format {paths : List Text}
    (canonical : ∀ path ∈ paths, Canonical path) :
    parse (format paths) .strict = numbered paths := by
  rw [parse, format, ofLines_formatFrom canonical]
  simp [numbered]

/-- Writing and strict reading are inverse exactly on the lists of canonical
paths, and whatever a manifest is read from, its paths are canonical, so that
they survive being written and read again. -/
theorem parse_format_eq_numbered_iff :
    (∀ paths, parse (format paths) .strict = numbered paths ↔
      ∀ path ∈ paths, Canonical path) ∧
    ∀ text mode,
      (∀ entry ∈ (parse text mode).entries, Canonical entry.path) ∧
      parse (format ((parse text mode).entries.map (·.path))) .strict =
        numbered ((parse text mode).entries.map (·.path)) := by
  constructor
  · intro paths
    constructor
    · intro same path member
      rw [← map_path_numbered paths, ← same] at member
      obtain ⟨entry, isEntry, rfl⟩ := List.mem_map.mp member
      exact canonical_of_mem_entries isEntry
    · exact parse_format
  · intro text mode
    refine ⟨fun _ member => canonical_of_mem_entries member, ?_⟩
    apply parse_format
    intro path member
    obtain ⟨entry, isEntry, rfl⟩ := List.mem_map.mp member
    exact canonical_of_mem_entries isEntry

end Manifest

end AccessAudit
