import AccessAudit.Proofs.Manifest.Line

/-!
# The grammar of manifest lines

A numbered line is cut into white space, number and body in one way only.
`GivesPath` says which path a line stands for, and the three readings of a
line are told apart by it alone.
-/

namespace AccessAudit

/-- The parts of a numbered line; an arrow stands before the body. -/
structure NumberedLine where
  space : Text
  number : Text
  body : Text
  blank : ∀ c ∈ space, Text.isWhiteSpace c = true
  digits : ∀ c ∈ number, Text.isDecimalDigit c = true
  nonempty : number ≠ []
  oneLine : '\n' ∉ body

namespace NumberedLine

def write (line : NumberedLine) : Text :=
  line.space ++ (line.number ++ '→' :: line.body)

theorem takeWhile_number (line : NumberedLine) :
    (line.number ++ '→' :: line.body).takeWhile Text.isDecimalDigit =
      line.number := by
  have arrow : Text.isDecimalDigit '→' = false := by decide
  rw [List.takeWhile_append_of_pos line.digits]
  simp [arrow]

/-- No digit is white space, so the number begins where the white space
ends. -/
theorem takeWhile_write (line : NumberedLine) :
    line.write.takeWhile Text.isWhiteSpace = line.space := by
  obtain ⟨digit, others, number⟩ :=
    List.exists_cons_of_ne_nil line.nonempty
  have notSpace : Text.isWhiteSpace digit = false :=
    Text.isWhiteSpace_eq_false_of_isDecimalDigit
      (line.digits digit (by simp [number]))
  rw [write, List.takeWhile_append_of_pos line.blank, number]
  simp [notSpace]

/-- The parts of a line can be told from the line. -/
theorem write_injective : Function.Injective write := by
  intro line other same
  have space : line.space = other.space := by
    rw [← takeWhile_write line, same, takeWhile_write]
  have rest : line.number ++ '→' :: line.body =
      other.number ++ '→' :: other.body := by
    rw [write, write, space] at same
    exact List.append_cancel_left same
  have number : line.number = other.number := by
    rw [← takeWhile_number line, rest, takeWhile_number]
  have body : line.body = other.body := by
    rw [number] at rest
    exact (List.cons.inj (List.append_cancel_left rest)).2
  cases line
  cases other
  cases space
  cases number
  cases body
  rfl

end NumberedLine

theorem numbered_iff {body raw : Text} :
    Numbered body raw ↔
      ∃ line : NumberedLine, line.write = raw ∧ line.body = body := by
  constructor
  · intro numbered
    cases numbered with
    | @intro space number blank digits nonempty oneLine =>
        exact ⟨⟨space, number, body, blank, digits, nonempty, oneLine⟩,
          rfl, rfl⟩
  · rintro ⟨line, rfl, rfl⟩
    exact .intro line.blank line.digits line.nonempty line.oneLine

/-- The line stands for the path: it has a number before the path, or it is
the path as a whole and needs no number. -/
inductive GivesPath (mode : ManifestMode) (raw : Text) : Text → Prop
  | numbered (line : NumberedLine) (written : line.write = raw)
      (nonempty : normalizePath line.body ≠ []) :
      GivesPath mode raw (normalizePath line.body)
  | whole (lenient : mode = .lenient)
      (bare : ∀ line : NumberedLine, line.write ≠ raw)
      (nonempty : normalizePath raw ≠ []) :
      GivesPath mode raw (normalizePath raw)

theorem givesPath_iff {mode : ManifestMode} {raw path : Text} :
    GivesPath mode raw path ↔
      ∃ body, LineBody mode raw body ∧ normalizePath body ≠ [] ∧
        path = normalizePath body := by
  constructor
  · intro gives
    cases gives with
    | numbered line written nonempty =>
        have numbered := numbered_iff.mpr ⟨line, written, rfl⟩
        exact ⟨line.body, .numbered numbered, nonempty, rfl⟩
    | whole lenient bare nonempty =>
        refine ⟨raw, .whole lenient ?_, nonempty, rfl⟩
        intro body numbered
        obtain ⟨line, written, _⟩ := numbered_iff.mp numbered
        exact bare line written
  · rintro ⟨body, lineBody, nonempty, rfl⟩
    cases lineBody with
    | numbered numbered =>
        obtain ⟨line, written, rfl⟩ := numbered_iff.mp numbered
        exact .numbered line written nonempty
    | whole lenient bare =>
        refine .whole lenient ?_ nonempty
        intro line written
        exact bare line.body (numbered_iff.mpr ⟨line, written, rfl⟩)

namespace ManifestLine

theorem parse_eq_entry_iff_givesPath {index : Nat} {raw : Text}
    {mode : ManifestMode} {entry : ManifestEntry} :
    parse index raw mode = .entry entry ↔
      entry.index = index ∧ GivesPath mode raw entry.path := by
  rw [parse_eq_entry_iff, givesPath_iff]
  constructor
  · rintro ⟨body, lineBody, nonempty, rfl⟩
    exact ⟨rfl, body, lineBody, nonempty, rfl⟩
  · rintro ⟨rfl, body, lineBody, nonempty, path⟩
    refine ⟨body, lineBody, nonempty, ?_⟩
    rw [← path]

theorem ne_entry_iff {index : Nat} {raw : Text} {mode : ManifestMode} :
    (∀ entry, parse index raw mode ≠ .entry entry) ↔
      ∀ path, ¬GivesPath mode raw path := by
  simp only [Ne, parse_eq_entry_iff_givesPath]
  constructor
  · intro noEntry path gives
    exact noEntry ⟨index, path⟩ ⟨rfl, gives⟩
  · rintro noPath entry ⟨_, gives⟩
    exact noPath entry.path gives

/-- Where the number is optional, every line is a path or says nothing. -/
theorem parse_lenient_ne_malformed (index : Nat) (raw : Text) :
    parse index raw .lenient ≠ .malformed := by
  have fromBody : ∀ body, ofBody index body .lenient ≠ .malformed := by
    intro body
    unfold ofBody
    cases normalizePath body <;> simp
  unfold parse
  split
  · exact fromBody _
  · split
    · simp
    · exact fromBody raw

/-- Where the number is required, only white space says nothing. -/
theorem parse_strict_eq_blank_iff {index : Nat} {raw : Text} :
    parse index raw .strict = .blank ↔
      ∀ c ∈ raw, Text.isWhiteSpace c = true := by
  simp [parse_eq_blank_iff, blankLine_iff]

theorem parse_eq_malformed_iff {index : Nat} {raw : Text}
    {mode : ManifestMode} :
    parse index raw mode = .malformed ↔
      mode = .strict ∧ (∃ c ∈ raw, Text.isWhiteSpace c = false) ∧
        ∀ path, ¬GivesPath mode raw path := by
  cases mode with
  | lenient => simp [parse_lenient_ne_malformed]
  | strict =>
      have others : ∀ line : ManifestLine, line = .malformed ↔
          line ≠ .blank ∧ ∀ entry, line ≠ .entry entry := by
        intro line
        cases line <;> simp
      rw [others, Ne, parse_strict_eq_blank_iff, ne_entry_iff]
      simp

theorem parse_eq_blank_iff_givesPath {index : Nat} {raw : Text}
    {mode : ManifestMode} :
    parse index raw mode = .blank ↔
      (∀ path, ¬GivesPath mode raw path) ∧
        (mode = .strict → ∀ c ∈ raw, Text.isWhiteSpace c = true) := by
  have others : ∀ line : ManifestLine, line = .blank ↔
      line ≠ .malformed ∧ ∀ entry, line ≠ .entry entry := by
    intro line
    cases line <;> simp
  rw [others, Ne, parse_eq_malformed_iff, ne_entry_iff]
  constructor
  · rintro ⟨notMalformed, noPath⟩
    refine ⟨noPath, ?_⟩
    rintro rfl
    simpa [noPath] using notMalformed
  · rintro ⟨noPath, onlySpace⟩
    refine ⟨?_, noPath⟩
    rintro ⟨strict, ⟨c, member, ink⟩, _⟩
    rw [onlySpace strict c member] at ink
    cases ink

/-- A numbered line has its parts in one way only, and the reading of any
line follows the grammar.  It is an entry exactly if the line gives a path,
malformed if a number is required, something is written and no path is given,
and blank otherwise. -/
theorem parse_follows_grammar :
    Function.Injective NumberedLine.write ∧
    ∀ (index : Nat) (raw : Text) (mode : ManifestMode),
      (∀ entry, parse index raw mode = .entry entry ↔
        entry.index = index ∧ GivesPath mode raw entry.path) ∧
      (parse index raw mode = .malformed ↔
        mode = .strict ∧ (∃ c ∈ raw, Text.isWhiteSpace c = false) ∧
          ∀ path, ¬GivesPath mode raw path) ∧
      (parse index raw mode = .blank ↔
        (∀ path, ¬GivesPath mode raw path) ∧
          (mode = .strict → ∀ c ∈ raw, Text.isWhiteSpace c = true)) := by
  refine ⟨NumberedLine.write_injective, fun index raw mode => ⟨?_, ?_, ?_⟩⟩
  · exact fun _ => parse_eq_entry_iff_givesPath
  · exact parse_eq_malformed_iff
  · exact parse_eq_blank_iff_givesPath

-- Digits of any script are a number, and only the first arrow ends it.
example : parse 3 "\t٣→a→b\\c ".toList .strict =
    .entry ⟨3, "a→b/c".toList⟩ := by decide +kernel

end ManifestLine

end AccessAudit
