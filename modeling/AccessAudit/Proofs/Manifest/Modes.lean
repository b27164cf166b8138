import AccessAudit.Proofs.Manifest.Accounting
import AccessAudit.Proofs.Manifest.Grammar
import Mathlib.Data.List.Basic

/-!
# Strict and lenient reading

The two ways to read a line agree on numbered lines with a path and on white
space.  A line without number is malformed for the one and a path for the
other, and a number without path is malformed for the one and blank for the
other.  So lenient reading only adds entries to those of strict reading.
-/

namespace AccessAudit

/-- What a line is where the number is required and where it is optional. -/
inductive ReadsAs (index : Nat) (raw : Text) :
    ManifestLine → ManifestLine → Prop
  | numbered {body : Text} (numbered : Numbered body raw)
      (nonempty : normalizePath body ≠ []) :
      ReadsAs index raw (.entry ⟨index, normalizePath body⟩)
        (.entry ⟨index, normalizePath body⟩)
  | bareNumber {body : Text} (numbered : Numbered body raw)
      (blank : ∀ c ∈ body, Text.isWhiteSpace c = true) :
      ReadsAs index raw .malformed .blank
  | whole (bare : ∀ body, ¬Numbered body raw)
      (nonempty : normalizePath raw ≠ []) :
      ReadsAs index raw .malformed (.entry ⟨index, normalizePath raw⟩)
  | space (blank : ∀ c ∈ raw, Text.isWhiteSpace c = true) :
      ReadsAs index raw .blank .blank

theorem readsAs_parse (index : Nat) (raw : Text) :
    ReadsAs index raw (ManifestLine.parse index raw .strict)
      (ManifestLine.parse index raw .lenient) := by
  have named : ∀ {body mode}, normalizePath body ≠ [] →
      ManifestLine.ofBody index body mode =
        .entry ⟨index, normalizePath body⟩ := fun nonempty =>
    ManifestLine.ofBody_eq_entry_iff.mpr ⟨nonempty, rfl⟩
  cases found : numberedBody? raw with
  | some body =>
      have numbered := numberedBody?_eq_some_iff.mp found
      simp only [ManifestLine.parse, found]
      by_cases nonempty : normalizePath body = []
      · simp only [ManifestLine.ofBody, nonempty]
        exact .bareNumber numbered (normalizePath_eq_nil_iff.mp nonempty)
      · rw [named nonempty, named nonempty]
        exact .numbered numbered nonempty
  | none =>
      have bare := numberedBody?_eq_none_iff.mp found
      by_cases blank : Text.trim raw = []
      · simp only [ManifestLine.parse, found, blank, List.isEmpty_nil,
          if_true]
        exact .space ((Text.trim_eq_nil_iff raw).mp blank)
      · have nonempty : normalizePath raw ≠ [] := by
          simpa [normalizePath] using blank
        simp only [ManifestLine.parse, found, List.isEmpty_iff, blank,
          if_false, if_true, reduceCtorEq, named nonempty]
        exact .whole bare nonempty

/-- A line is malformed where the number is required exactly if, where it is
optional, the line is read as a path in full, or its number goes for
nothing. -/
theorem parse_strict_eq_malformed_iff {index : Nat} {raw : Text} :
    ManifestLine.parse index raw .strict = .malformed ↔
      ((∀ body, ¬Numbered body raw) ∧
        ManifestLine.parse index raw .lenient =
          .entry ⟨index, normalizePath raw⟩) ∨
      ((∃ body, Numbered body raw ∧
          ∀ c ∈ body, Text.isWhiteSpace c = true) ∧
        ManifestLine.parse index raw .lenient = .blank) := by
  have compared := readsAs_parse index raw
  generalize ManifestLine.parse index raw .strict = strict at compared
  generalize ManifestLine.parse index raw .lenient = lenient at compared
  cases compared with
  | @numbered body numbered nonempty =>
      have notBare : ¬∀ body, ¬Numbered body raw := fun bare =>
        bare body numbered
      simp [notBare]
  | @bareNumber body numbered blank =>
      have bareNumber : ∃ body, Numbered body raw ∧
          ∀ c ∈ body, Text.isWhiteSpace c = true := ⟨body, numbered, blank⟩
      simp [bareNumber]
  | whole bare nonempty => simp [bare]
  | space blank =>
      have bare : ∀ body, ¬Numbered body raw := fun _ numbered =>
        numbered.not_blank blank
      simp [bare]

namespace Manifest

/-- The line of a text with the given number, counted from 1. -/
def LineAt (text : Text) (number : Nat) (raw : Text) : Prop :=
  1 ≤ number ∧ (Text.lines text)[number - 1]? = some raw

/-- The line with the given number carries a number itself. -/
def NumberedAt (text : Text) (number : Nat) : Prop :=
  ∃ raw body, LineAt text number raw ∧ Numbered body raw

instance (text : Text) (number : Nat) : Decidable (NumberedAt text number) :=
  decidable_of_iff
    (1 ≤ number ∧
      (((Text.lines text)[number - 1]?).bind numberedBody?).isSome) <| by
    simp only [NumberedAt, LineAt, Option.isSome_iff_exists,
      Option.bind_eq_some_iff, numberedBody?_eq_some_iff]
    constructor
    · rintro ⟨positive, body, raw, line, numbered⟩
      exact ⟨raw, body, ⟨positive, line⟩, numbered⟩
    · rintro ⟨raw, body, ⟨positive, line⟩, numbered⟩
      exact ⟨positive, body, raw, line, numbered⟩

/-- A line without number that is an entry of the manifest as a whole. -/
inductive TakenInFull (text : Text) (manifest : Manifest)
    (number : Nat) : Prop
  | intro {raw : Text} (line : LineAt text number raw)
      (bare : ∀ body, ¬Numbered body raw)
      (entry : ⟨number, normalizePath raw⟩ ∈ manifest.entries)

/-- A line with nothing but white space after its number, which is blank
where the number is optional. -/
inductive PassedOver (text : Text) (number : Nat) : Prop
  | intro {raw body : Text} (line : LineAt text number raw)
      (numbered : Numbered body raw)
      (empty : ∀ c ∈ body, Text.isWhiteSpace c = true)
      (blank : ManifestLine.parse number raw .lenient = .blank)

/-! ## One line of a text -/

theorem exists_line_of_mem_readings {text : Text} {mode : ManifestMode}
    {number : Nat} {reading : ManifestLine}
    (member : (number, reading) ∈ readings mode 1 (Text.lines text)) :
    ∃ raw, LineAt text number raw := by
  obtain ⟨raw, positive, line, _⟩ := mem_readings_iff.mp member
  exact ⟨raw, positive, line⟩

namespace LineAt

variable {text raw : Text} {number : Nat} {mode : ManifestMode}

theorem unique {other : Text} (line : LineAt text number raw)
    (same : LineAt text number other) : raw = other :=
  Option.some.inj (line.2.symm.trans same.2)

theorem numberedAt_iff (line : LineAt text number raw) :
    NumberedAt text number ↔ ∃ body, Numbered body raw := by
  constructor
  · rintro ⟨other, body, same, numbered⟩
    exact ⟨body, line.unique same ▸ numbered⟩
  · rintro ⟨body, numbered⟩
    exact ⟨raw, body, line, numbered⟩

theorem mem_readings_iff {reading : ManifestLine}
    (line : LineAt text number raw) :
    (number, reading) ∈ readings mode 1 (Text.lines text) ↔
      ManifestLine.parse number raw mode = reading := by
  rw [Manifest.mem_readings_iff]
  constructor
  · rintro ⟨other, positive, same, read⟩
    rw [line.unique ⟨positive, same⟩]
    exact read
  · intro read
    exact ⟨raw, line.1, line.2, read⟩

theorem mem_malformed_iff (line : LineAt text number raw) :
    number ∈ (parse text mode).malformed ↔
      ManifestLine.parse number raw mode = .malformed := by
  rw [Manifest.mem_malformed_iff, line.mem_readings_iff]

theorem mem_entries_iff {path : Text} (line : LineAt text number raw) :
    ⟨number, path⟩ ∈ (parse text mode).entries ↔
      ManifestLine.parse number raw mode = .entry ⟨number, path⟩ := by
  rw [entries_parse, List.mem_filterMap, ← line.mem_readings_iff]
  constructor
  · rintro ⟨⟨other, reading⟩, member, isEntry⟩
    cases reading with
    | entry entry =>
        cases isEntry
        obtain ⟨found, _, _, read⟩ := Manifest.mem_readings_iff.mp member
        have index : number = other :=
          ManifestLine.index_of_parse_eq_entry read
        rw [← index] at member
        exact member
    | blank => cases isEntry
    | malformed => cases isEntry
  · intro member
    exact ⟨_, member, rfl⟩

/-- The entries that strict reading finds on a line are those that lenient
reading finds there, if the line is numbered. -/
theorem asEntry_strict (line : LineAt text number raw) :
    (ManifestLine.parse number raw .strict).asEntry =
      (ManifestLine.parse number raw .lenient).asEntry.filter
        (NumberedAt text ·.index) := by
  have compared := readsAs_parse number raw
  generalize ManifestLine.parse number raw .strict = strict at compared
  generalize ManifestLine.parse number raw .lenient = lenient at compared
  cases compared with
  | @numbered body numbered nonempty =>
      have carries := line.numberedAt_iff.mpr ⟨body, numbered⟩
      simp [ManifestLine.asEntry, Option.filter, carries]
  | bareNumber => rfl
  | whole bare nonempty =>
      have carriesNone : ¬NumberedAt text number := by
        simp [line.numberedAt_iff, bare]
      simp [ManifestLine.asEntry, Option.filter, carriesNone]
  | space => rfl

end LineAt

/-! ## All lines of a text -/

/-- Strict reading keeps the entries of numbered lines. -/
theorem entries_strict (text : Text) :
    (parse text .strict).entries =
      (parse text .lenient).entries.filter (NumberedAt text ·.index) := by
  rw [entries_parse, entries_parse, List.filter_filterMap, readings,
    readings, List.filterMap_map, List.filterMap_map]
  apply List.filterMap_congr
  rintro ⟨raw, number⟩ member
  have line : LineAt text number raw :=
    List.mem_zipIdx_iff_le_and_getElem?_sub.mp member
  exact line.asEntry_strict

theorem malformed_lenient (text : Text) :
    (parse text .lenient).malformed = [] := by
  rw [List.eq_nil_iff_forall_not_mem]
  intro number member
  obtain ⟨raw, line⟩ :=
    exists_line_of_mem_readings (mem_malformed_iff.mp member)
  exact ManifestLine.parse_lenient_ne_malformed number raw
    (line.mem_malformed_iff.mp member)

theorem mem_malformed_strict_iff {text : Text} {number : Nat} :
    number ∈ (parse text .strict).malformed ↔
      TakenInFull text (parse text .lenient) number ∨
        PassedOver text number := by
  constructor
  · intro member
    obtain ⟨raw, line⟩ :=
      exists_line_of_mem_readings (mem_malformed_iff.mp member)
    rw [line.mem_malformed_iff, parse_strict_eq_malformed_iff] at member
    rcases member with ⟨bare, whole⟩ | ⟨⟨body, numbered, empty⟩, blank⟩
    · exact Or.inl (.intro line bare (line.mem_entries_iff.mpr whole))
    · exact Or.inr (.intro line numbered empty blank)
  · rintro (⟨line, bare, entry⟩ | ⟨line, numbered, empty, blank⟩)
    · rw [line.mem_malformed_iff, parse_strict_eq_malformed_iff]
      exact Or.inl ⟨bare, line.mem_entries_iff.mp entry⟩
    · rw [line.mem_malformed_iff, parse_strict_eq_malformed_iff]
      exact Or.inr ⟨⟨_, numbered, empty⟩, blank⟩

/-- A second manifest of the text only adds entries to the first: it keeps all
those on numbered lines, and the malformed lines of the first are read or
passed over. -/
structure OnlyAdds (text : Text) (strict lenient : Manifest) : Prop where
  lineCount : strict.lineCount = lenient.lineCount
  malformed : lenient.malformed = []
  kept : strict.entries.Sublist lenient.entries
  numbered : strict.entries =
    lenient.entries.filter (NumberedAt text ·.index)
  others : ∀ number, number ∈ strict.malformed ↔
    TakenInFull text lenient number ∨ PassedOver text number

/-- Lenient reading of any text only adds entries to strict reading. -/
theorem lenient_only_adds (text : Text) :
    OnlyAdds text (parse text .strict) (parse text .lenient) where
  lineCount := by rw [lineCount_parse, lineCount_parse]
  malformed := malformed_lenient text
  kept := by
    rw [entries_strict]
    exact List.filter_sublist
  numbered := entries_strict text
  others := fun _ => mem_malformed_strict_iff

end Manifest

end AccessAudit
