import AccessAudit.Manifest
import AccessAudit.Proofs.Text.Trimming

/-!
# What a manifest line says

`Numbered` states the shape of a numbered line, and `BlankLine` and
`LineBody` state which lines say nothing and which part of a line holds the
path.  The equivalences join them to the reading of a line.
-/

namespace AccessAudit

/-- A line with a number: white space, decimal digits and an arrow stand
before the body. -/
inductive Numbered (body : Text) : Text → Prop
  | intro {space number : Text}
      (blank : ∀ c ∈ space, Text.isWhiteSpace c = true)
      (digits : ∀ c ∈ number, Text.isDecimalDigit c = true)
      (nonempty : number ≠ [])
      (oneLine : '\n' ∉ body) :
      Numbered body (space ++ (number ++ '→' :: body))

/-- A line that says nothing: white space alone or, where the number is
optional, a number with nothing but white space after its arrow. -/
inductive BlankLine (mode : ManifestMode) (raw : Text) : Prop
  | space (blank : ∀ c ∈ raw, Text.isWhiteSpace c = true)
  | bareNumber {body : Text} (lenient : mode = .lenient)
      (numbered : Numbered body raw)
      (blank : ∀ c ∈ body, Text.isWhiteSpace c = true)

/-- The part of a line that holds its path: what follows the number, or the
whole line where it has no number and needs none. -/
inductive LineBody (mode : ManifestMode) (raw : Text) : Text → Prop
  | numbered {body : Text} (numbered : Numbered body raw) :
      LineBody mode raw body
  | whole (lenient : mode = .lenient)
      (bare : ∀ body, ¬Numbered body raw) : LineBody mode raw raw

theorem numberedBody?_of_numbered {body raw : Text}
    (numbered : Numbered body raw) : numberedBody? raw = some body := by
  cases numbered with
  | @intro space number blank digits nonempty oneLine =>
      obtain ⟨digit, others, rfl⟩ := List.exists_cons_of_ne_nil nonempty
      have notSpace : Text.isWhiteSpace digit = false :=
        Text.isWhiteSpace_eq_false_of_isDecimalDigit
          (digits digit List.mem_cons_self)
      have start : Text.trimStart
          (space ++ (digit :: others ++ '→' :: body)) =
            digit :: others ++ '→' :: body := by
        rw [Text.trimStart, List.dropWhile_append_of_pos blank]
        simp [notSpace]
      have arrow : Text.isDecimalDigit '→' = false := by decide
      have number : (digit :: others ++ '→' :: body).takeWhile
          Text.isDecimalDigit = digit :: others := by
        rw [List.takeWhile_append_of_pos digits]
        simp [arrow]
      have after : (digit :: others ++ '→' :: body).dropWhile
          Text.isDecimalDigit = '→' :: body := by
        rw [List.dropWhile_append_of_pos digits]
        simp [arrow]
      simp only [numberedBody?, start, number, after]
      simp [oneLine]

theorem numbered_of_numberedBody? {body raw : Text}
    (found : numberedBody? raw = some body) : Numbered body raw := by
  unfold numberedBody? at found
  simp only at found
  split at found
  · next digit others rest number after =>
      split at found
      · simp at found
      · next oneLine =>
          cases found
          have whole : raw = raw.takeWhile Text.isWhiteSpace ++
              (digit :: others ++ '→' :: body) := by
            rw [← number, ← after, List.takeWhile_append_dropWhile,
              Text.trimStart, List.takeWhile_append_dropWhile]
          rw [whole]
          apply Numbered.intro
          · exact List.all_eq_true.mp List.all_takeWhile
          · rw [← number]
            exact List.all_eq_true.mp List.all_takeWhile
          · simp
          · simpa using oneLine
  · simp at found

theorem numberedBody?_eq_some_iff {body raw : Text} :
    numberedBody? raw = some body ↔ Numbered body raw :=
  ⟨numbered_of_numberedBody?, numberedBody?_of_numbered⟩

theorem numberedBody?_eq_none_iff {raw : Text} :
    numberedBody? raw = none ↔ ∀ body, ¬Numbered body raw := by
  simp [Option.eq_none_iff_forall_ne_some, numberedBody?_eq_some_iff]

/-- A numbered line holds a digit, which is no white space. -/
theorem Numbered.not_blank {body raw : Text}
    (numbered : Numbered body raw) :
    ¬∀ c ∈ raw, Text.isWhiteSpace c = true := by
  intro blank
  cases numbered with
  | @intro space number _ digits nonempty _ =>
      obtain ⟨digit, others, rfl⟩ := List.exists_cons_of_ne_nil nonempty
      have space := blank digit (by simp)
      have notSpace := Text.isWhiteSpace_eq_false_of_isDecimalDigit
        (digits digit List.mem_cons_self)
      simp [space] at notSpace

theorem lineBody_iff {mode : ManifestMode} {raw body : Text} :
    LineBody mode raw body ↔
      numberedBody? raw = some body ∨
        mode = .lenient ∧ numberedBody? raw = none ∧ body = raw := by
  rw [numberedBody?_eq_some_iff, numberedBody?_eq_none_iff]
  constructor
  · intro held
    cases held with
    | numbered numbered => exact Or.inl numbered
    | whole lenient bare => exact Or.inr ⟨lenient, bare, rfl⟩
  · rintro (numbered | ⟨lenient, bare, rfl⟩)
    · exact .numbered numbered
    · exact .whole lenient bare

theorem blankLine_iff {mode : ManifestMode} {raw : Text} :
    BlankLine mode raw ↔
      (∀ c ∈ raw, Text.isWhiteSpace c = true) ∨
        mode = .lenient ∧ ∃ body, numberedBody? raw = some body ∧
          ∀ c ∈ body, Text.isWhiteSpace c = true := by
  simp only [numberedBody?_eq_some_iff]
  constructor
  · intro held
    cases held with
    | space blank => exact Or.inl blank
    | @bareNumber body lenient numbered blank =>
        exact Or.inr ⟨lenient, body, numbered, blank⟩
  · rintro (blank | ⟨lenient, body, numbered, blank⟩)
    · exact .space blank
    · exact .bareNumber lenient numbered blank

theorem normalizePath_eq_nil_iff {raw : Text} :
    normalizePath raw = [] ↔ ∀ c ∈ raw, Text.isWhiteSpace c = true := by
  rw [normalizePath, List.map_eq_nil_iff, Text.trim_eq_nil_iff]

namespace ManifestLine

theorem ofBody_eq_entry_iff {index : Nat} {body : Text}
    {mode : ManifestMode} {entry : ManifestEntry} :
    ofBody index body mode = .entry entry ↔
      normalizePath body ≠ [] ∧ entry = ⟨index, normalizePath body⟩ := by
  unfold ofBody
  cases path : normalizePath body with
  | nil => cases mode <;> simp
  | cons c rest => simp [eq_comm]

theorem ofBody_eq_blank_iff {index : Nat} {body : Text}
    {mode : ManifestMode} :
    ofBody index body mode = .blank ↔
      mode = .lenient ∧ normalizePath body = [] := by
  unfold ofBody
  cases path : normalizePath body with
  | nil => cases mode <;> simp
  | cons c rest => simp

/-- A line is an entry exactly when it has a body with a path. -/
theorem parse_eq_entry_iff {index : Nat} {raw : Text}
    {mode : ManifestMode} {entry : ManifestEntry} :
    parse index raw mode = .entry entry ↔
      ∃ body, LineBody mode raw body ∧ normalizePath body ≠ [] ∧
        entry = ⟨index, normalizePath body⟩ := by
  simp only [lineBody_iff]
  cases found : numberedBody? raw with
  | some body =>
      simp [parse, found, ofBody_eq_entry_iff]
  | none =>
      by_cases blank : Text.trim raw = []
      · simp [parse, found, blank, normalizePath]
      · cases mode <;> simp [parse, found, blank, ofBody_eq_entry_iff]

/-- Exactly the lines that say nothing are read as blank. -/
theorem parse_eq_blank_iff {index : Nat} {raw : Text}
    {mode : ManifestMode} :
    parse index raw mode = .blank ↔ BlankLine mode raw := by
  rw [blankLine_iff]
  cases found : numberedBody? raw with
  | some body =>
      have notBlank := (numberedBody?_eq_some_iff.mp found).not_blank
      simp [parse, found, ofBody_eq_blank_iff, normalizePath_eq_nil_iff,
        notBlank]
  | none =>
      rw [← Text.trim_eq_nil_iff]
      by_cases blank : Text.trim raw = []
      · simp [parse, found, blank]
      · cases mode <;>
          simp [parse, found, blank, ofBody_eq_blank_iff, normalizePath]

end ManifestLine

end AccessAudit
