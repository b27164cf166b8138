import AccessAudit.Text.LowerCase

/-!
# Lower-casing by segments

A slash is neither cased nor ignored for case, so the look around a capital
sigma never goes beyond one: texts on both sides of a slash are lower-cased
apart.
-/

namespace AccessAudit

namespace Text

theorem casedAhead_append_slash (near far : Text) :
    casedAhead (near ++ '/' :: far) = casedAhead near := by
  have stops : inRanges caseIgnorableRanges '/'.toNat = false := by
    decide +kernel
  have notCased : inRanges casedRanges '/'.toNat = false := by
    decide +kernel
  have ahead : ('/' :: far).dropWhile
      (fun c => inRanges caseIgnorableRanges c.toNat) = '/' :: far := by
    rw [List.dropWhile_cons_of_neg]
    rw [stops]
    exact Bool.false_ne_true
  rw [casedAhead, casedAhead, List.dropWhile_append, ahead]
  cases near.dropWhile fun c => inRanges caseIgnorableRanges c.toNat with
  | nil => exact notCased
  | cons c rest => rfl

/-- What was passed before the last slash makes no difference. -/
theorem lowerCaseAfter_append_slash (near far text : Text) :
    lowerCaseAfter (near ++ '/' :: far) text = lowerCaseAfter near text := by
  induction text generalizing near with
  | nil => rfl
  | cons c rest ih =>
      have later := ih (c :: near)
      rw [List.cons_append] at later
      rw [lowerCaseAfter, lowerCaseAfter, casedAhead_append_slash, later]

theorem lowerCaseAfter_append (before first second : Text) :
    lowerCaseAfter before (first ++ '/' :: second) =
      lowerCaseAfter before first ++ '/' :: lowerCase second := by
  induction first generalizing before with
  | nil =>
      have slash : lowerCaseAfter before ('/' :: second) =
          '/' :: lowerCaseAfter ('/' :: before) second := rfl
      have passed := lowerCaseAfter_append_slash [] before second
      rw [List.nil_append] at passed
      rw [List.nil_append, slash, passed]
      rfl
  | cons c rest ih =>
      rw [List.cons_append, lowerCaseAfter, lowerCaseAfter, ih,
        casedAhead_append_slash, List.append_assoc]

/-- Segments are lower-cased apart. -/
theorem lowerCase_append_slash (first second : Text) :
    lowerCase (first ++ '/' :: second) =
      lowerCase first ++ '/' :: lowerCase second :=
  lowerCaseAfter_append [] first second

end Text

end AccessAudit
