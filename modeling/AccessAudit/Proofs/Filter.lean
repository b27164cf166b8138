import AccessAudit.Filter

/-!
# What a filter turns away

A filter is built exactly if all its exclude texts are patterns that can be
run together, and what it includes matches none of them.
-/

namespace AccessAudit

namespace FileFilter

/-- Patterns are read exactly if each text is one. -/
theorem readPatterns_eq_ok_iff {texts : List Text}
    {patterns : List Glob.Pattern} :
    readPatterns texts = .ok patterns ↔
      texts.map Glob.parse = patterns.map .ok := by
  induction texts generalizing patterns with
  | nil => cases patterns <;> simp [readPatterns]
  | cons text rest ih =>
      rw [readPatterns, List.map_cons]
      cases patterns with
      | nil => cases Glob.parse text <;> cases readPatterns rest <;> simp
      | cons pattern others =>
          rw [List.map_cons, List.cons.injEq, ← ih]
          cases Glob.parse text <;> cases readPatterns rest <;> simp

/-- The first text that is no pattern is reported. -/
theorem readPatterns_eq_error_iff {texts : List Text} {text : Text}
    {problem : Glob.Problem} :
    readPatterns texts = .error (text, problem) ↔
      texts.find? (fun text => !(Glob.parse text).isOk) = some text ∧
        Glob.parse text = .error problem := by
  induction texts with
  | nil => simp [readPatterns]
  | cons first rest ih =>
      rw [readPatterns, List.find?_cons]
      cases parsed : Glob.parse first with
      | error other =>
          simp only [Except.isOk, Except.toBool, Bool.not_false,
            Except.error.injEq, Prod.mk.injEq, Option.some.injEq]
          constructor
          · rintro ⟨rfl, rfl⟩
            exact ⟨rfl, parsed⟩
          · rintro ⟨rfl, failed⟩
            cases parsed.symm.trans failed
            exact ⟨rfl, rfl⟩
      | ok pattern =>
          simp only [Except.isOk, Except.toBool, Bool.not_true] at ih ⊢
          rw [← ih]
          cases readPatterns rest <;> simp

section

variable [Glob.Engine] {extensions texts : List Text}

theorem build_of_patterns {patterns : List Glob.Pattern}
    (read : texts.map Glob.parse = patterns.map .ok) :
    build extensions texts =
      match Glob.Engine.refusal? patterns with
      | some reason => .error (.refused reason)
      | none => .ok ⟨extensions.map normalizeExtension, patterns⟩ := by
  have readAll := readPatterns_eq_ok_iff.mpr read
  cases refusal : Glob.Engine.refusal? patterns <;>
    simp [build, readAll, refusal]

/-- A filter is built exactly from patterns that the engine takes. -/
theorem build_eq_ok_iff {filter : FileFilter} :
    build extensions texts = .ok filter ↔
      filter.extensions = extensions.map normalizeExtension ∧
        texts.map Glob.parse = filter.excluded.map .ok ∧
        Glob.Engine.refusal? filter.excluded = none := by
  constructor
  · intro built
    rw [build] at built
    cases read : readPatterns texts with
    | error problem =>
        rw [read] at built
        cases built
    | ok patterns =>
        rw [read] at built
        cases refusal : Glob.Engine.refusal? patterns with
        | some reason =>
            simp only [refusal] at built
            cases built
        | none =>
            simp only [refusal] at built
            cases built
            exact ⟨rfl, readPatterns_eq_ok_iff.mp read, refusal⟩
  · rintro ⟨admitted, read, taken⟩
    rw [build_of_patterns read, taken, ← admitted]

/-- The first text that is no pattern is reported. -/
theorem build_eq_invalid_iff {text : Text} {problem : Glob.Problem} :
    build extensions texts = .error (.invalid text problem) ↔
      texts.find? (fun text => !(Glob.parse text).isOk) = some text ∧
        Glob.parse text = .error problem := by
  rw [← readPatterns_eq_error_iff, build]
  cases readPatterns texts with
  | error pair => simp [Prod.ext_iff]
  | ok patterns =>
      cases refusal : Glob.Engine.refusal? patterns <;> simp [refusal]

/-- The engine is asked if all texts are patterns. -/
theorem build_eq_refused_iff {reason : Text} :
    build extensions texts = .error (.refused reason) ↔
      ∃ patterns, texts.map Glob.parse = patterns.map .ok ∧
        Glob.Engine.refusal? patterns = some reason := by
  simp only [← readPatterns_eq_ok_iff, build]
  cases readPatterns texts with
  | error pair => simp
  | ok patterns =>
      cases refusal : Glob.Engine.refusal? patterns <;> simp [refusal]

end

theorem isMatch_of_includes {filter : FileFilter} {path : Bytes}
    (included : filter.includes path = true) {pattern : Glob.Pattern}
    (member : pattern ∈ filter.excluded) :
    Glob.isMatch .ordinary pattern path = false := by
  rw [includes, Bool.and_eq_true, Bool.not_eq_true', isExcluded,
    List.any_eq_false] at included
  simpa using included.2 pattern member

end FileFilter

end AccessAudit
