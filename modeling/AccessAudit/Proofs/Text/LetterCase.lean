import AccessAudit.Text.LowerCase

/-!
# The case of ASCII letters

Lower-casing looks at the letters around a capital sigma, but never at the
case of an ASCII letter: texts that differ in nothing else have the same
lower-case form.
-/

namespace AccessAudit

namespace Text

/-- An ASCII capital is one of 26 characters, and all others stay. -/
theorem toLower_cases (c : Char) :
    c.toLower = c ∨ ∃ position < 26, c = Char.ofNat (65 + position) := by
  by_cases capital : 65 ≤ c.toNat ∧ c.toNat ≤ 90
  · right
    refine ⟨c.toNat - 65, by omega, ?_⟩
    rw [Nat.add_sub_cancel' capital.1, Char.ofNat_toNat]
  · left
    have isUpper : ¬(65 ≤ c.val ∧ c.val ≤ 90) := capital
    exact dif_neg isUpper

/-- What holds of the 26 capitals holds of all characters that the lower-case
form of ASCII letters changes. -/
theorem toLower_induction (holds : Char → Char → Prop)
    (same : ∀ c, holds c c)
    (capital : ∀ position < 26,
      holds (Char.ofNat (65 + position)) (Char.ofNat (65 + position)).toLower)
    (c : Char) : holds c c.toLower := by
  rcases toLower_cases c with stays | ⟨position, bound, rfl⟩
  · rw [stays]
    exact same c
  · exact capital position bound

theorem lowerChar_toLower (c : Char) : lowerChar c.toLower = lowerChar c :=
  toLower_induction (fun c lower => lowerChar lower = lowerChar c)
    (fun _ => rfl) (by decide +kernel) c

theorem inRanges_caseIgnorable_toLower (c : Char) :
    inRanges caseIgnorableRanges c.toLower.toNat =
      inRanges caseIgnorableRanges c.toNat :=
  toLower_induction (fun c lower =>
      inRanges caseIgnorableRanges lower.toNat =
        inRanges caseIgnorableRanges c.toNat)
    (fun _ => rfl) (by decide +kernel) c

theorem inRanges_cased_toLower (c : Char) :
    inRanges casedRanges c.toLower.toNat = inRanges casedRanges c.toNat :=
  toLower_induction (fun c lower =>
      inRanges casedRanges lower.toNat = inRanges casedRanges c.toNat)
    (fun _ => rfl) (by decide +kernel) c

/-- No other character becomes one that is no ASCII letter. -/
theorem toLower_eq_iff (mark : Char)
    (noLetter : ∀ position < 26,
      (Char.ofNat (65 + position)).toLower ≠ mark ∧
        Char.ofNat (65 + position) ≠ mark)
    (c : Char) : c.toLower = mark ↔ c = mark :=
  toLower_induction (fun c lower => lower = mark ↔ c = mark)
    (fun _ => Iff.rfl)
    (fun position bound =>
      iff_of_false (noLetter position bound).1 (noLetter position bound).2) c

theorem casedAhead_map_toLower (text : Text) :
    casedAhead (text.map Char.toLower) = casedAhead text := by
  have skipped : (text.map Char.toLower).dropWhile
        (fun c => inRanges caseIgnorableRanges c.toNat) =
      (text.dropWhile fun c =>
        inRanges caseIgnorableRanges c.toNat).map Char.toLower := by
    simp only [List.dropWhile_map, Function.comp_def,
      inRanges_caseIgnorable_toLower]
  rw [casedAhead, casedAhead, skipped]
  cases text.dropWhile fun c => inRanges caseIgnorableRanges c.toNat with
  | nil => rfl
  | cons c rest => exact inRanges_cased_toLower c

theorem lowerCaseAfter_map_toLower (before text : Text) :
    lowerCaseAfter (before.map Char.toLower) (text.map Char.toLower) =
      lowerCaseAfter before text := by
  induction text generalizing before with
  | nil => rfl
  | cons c rest ih =>
      have later := ih (c :: before)
      have sigma := toLower_eq_iff 'Σ' (by decide +kernel) c
      have dotted := toLower_eq_iff 'İ' (by decide +kernel) c
      rw [List.map_cons] at later
      simp only [List.map_cons, lowerCaseAfter, later, sigma, dotted,
        casedAhead_map_toLower, lowerChar_toLower]

theorem lowerCase_map_toLower (text : Text) :
    lowerCase (text.map Char.toLower) = lowerCase text :=
  lowerCaseAfter_map_toLower [] text

/-- The case of ASCII letters does not show in the lower-case form. -/
theorem lowerCase_congr {text other : Text}
    (same : text.map Char.toLower = other.map Char.toLower) :
    lowerCase text = lowerCase other := by
  rw [← lowerCase_map_toLower text, same, lowerCase_map_toLower]

end Text

end AccessAudit
