import AccessAudit.Text.Digit

/-!
# The digits of a number

A number is written in digits without a leading zero, and they read back as
the number.
-/

namespace AccessAudit

namespace Text

theorem isDigit_of_mem_ofNat {number : Nat} {c : Char}
    (member : c ∈ ofNat number) : c.isDigit = true :=
  Nat.isDigit_of_mem_toDigits (by decide) (by decide) member

theorem ofNat_ne_nil (number : Nat) : ofNat number ≠ [] :=
  Nat.toDigits_ne_nil

theorem ofNat_of_lt_ten {number : Nat} (small : number < 10) :
    ofNat number = [number.digitChar] :=
  Nat.toDigits_of_lt_base small

theorem ofNat_of_ten_le {number : Nat} (large : 10 ≤ number) :
    ofNat number = ofNat (number / 10) ++ [(number % 10).digitChar] :=
  Nat.toDigits_of_base_le (by decide) large

/-- A positive number is written without a leading zero. -/
theorem exists_ofNat_eq_cons {number : Nat} (positive : 0 < number) :
    ∃ first rest, ofNat number = first :: rest ∧ first ≠ '0' := by
  induction number using Nat.strongRecOn with
  | ind number ih =>
      by_cases small : number < 10
      · refine ⟨number.digitChar, [], ofNat_of_lt_ten small, ?_⟩
        intro isZero
        exact Nat.ne_of_gt positive (Nat.digitChar_eq_zero.mp isZero)
      · obtain ⟨first, rest, written, nonzero⟩ :=
          ih (number / 10) (by omega) (by omega)
        refine ⟨first, rest ++ [(number % 10).digitChar], ?_, nonzero⟩
        rw [ofNat_of_ten_le (Nat.le_of_not_lt small), written,
          List.cons_append]

theorem readDigits?_append (base start : Nat) (text rest : Text) :
    readDigits? base start (text ++ rest) =
      (readDigits? base start text).bind fun number =>
        readDigits? base number rest := by
  induction text generalizing start with
  | nil => rfl
  | cons c text ih =>
      rw [List.cons_append, readDigits?, readDigits?]
      split
      · exact ih _
      · rfl

theorem digitValue?_digitChar :
    ∀ base ≤ 16, ∀ digit < base,
      digitValue? base (Nat.digitChar digit) = some digit := by
  decide

/-- The digits of a number read back as the number. -/
theorem readDigits?_ofNat (number : Nat) :
    readDigits? 10 0 (ofNat number) = some number := by
  induction number using Nat.strongRecOn with
  | ind number ih =>
      have ten : 10 ≤ 16 := by decide
      by_cases small : number < 10
      · rw [ofNat_of_lt_ten small, readDigits?,
          digitValue?_digitChar 10 ten number small]
        simp only [readDigits?, Nat.mul_zero, Nat.zero_add]
      · have last := digitValue?_digitChar 10 ten (number % 10)
          (Nat.mod_lt number (by decide))
        rw [ofNat_of_ten_le (Nat.le_of_not_lt small), readDigits?_append,
          ih (number / 10) (by omega), Option.bind_some, readDigits?, last]
        simp only [readDigits?, Nat.div_add_mod]

end Text

end AccessAudit
