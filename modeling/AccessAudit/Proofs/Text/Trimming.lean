import AccessAudit.Text.WhiteSpace
import AccessAudit.Text.DecimalDigit

/-!
# Trimmed texts

A text is trimmed if neither of its ends is white space.  `trim` always gives
a trimmed text and leaves a trimmed one alone.  No decimal digit is white
space, so white space before a number can be told from the number.
-/

namespace AccessAudit

namespace Text

/-- Neither end of the text is white space. -/
structure Trimmed (text : Text) : Prop where
  head : ∀ c, text.head? = some c → isWhiteSpace c = false
  last : ∀ c, text.getLast? = some c → isWhiteSpace c = false

theorem head?_dropWhile {holds : Char → Bool} {text : Text} {c : Char}
    (head : (text.dropWhile holds).head? = some c) : holds c = false := by
  have stopped := List.head?_dropWhile_not holds text
  rw [head] at stopped
  exact stopped

theorem dropWhile_of_head? {holds : Char → Bool} {text : Text}
    (stops : ∀ c, text.head? = some c → holds c = false) :
    text.dropWhile holds = text := by
  cases text with
  | nil => rfl
  | cons c rest => simp [stops c rfl]

theorem getLast?_trimEnd {text : Text} {c : Char}
    (last : (trimEnd text).getLast? = some c) : isWhiteSpace c = false := by
  rw [trimEnd, List.getLast?_reverse] at last
  exact head?_dropWhile last

theorem trimEnd_isPrefix (text : Text) : trimEnd text <+: text := by
  have suffix := List.dropWhile_suffix isWhiteSpace (l := text.reverse)
  simpa [trimEnd] using List.reverse_prefix.mpr suffix

theorem trim_sublist (text : Text) : (trim text).Sublist text :=
  (trimEnd_isPrefix (trimStart text)).sublist.trans
    (List.dropWhile_sublist isWhiteSpace)

theorem trimmed_trim (text : Text) : Trimmed (trim text) where
  head := by
    intro c first
    obtain ⟨rest, whole⟩ := trimEnd_isPrefix (trimStart text)
    have head : (trimStart text).head? = some c := by
      rw [← whole, List.head?_append]
      simpa [trim] using Or.inl first
    exact head?_dropWhile head
  last := fun _ final => getLast?_trimEnd final

theorem trim_eq_self {text : Text} (trimmed : Trimmed text) :
    trim text = text := by
  have start : trimStart text = text := dropWhile_of_head? trimmed.head
  have back : text.reverse.dropWhile isWhiteSpace = text.reverse := by
    apply dropWhile_of_head?
    intro c first
    exact trimmed.last c (by simpa using first)
  simp [trim, trimEnd, start, back]

theorem trim_append_of_blank {text after : Text}
    (blank : ∀ c ∈ after, isWhiteSpace c = true) :
    trim (text ++ after) = trim text := by
  have back : ∀ front : Text, trimEnd (front ++ after) = trimEnd front := by
    intro front
    rw [trimEnd, List.reverse_append,
      List.dropWhile_append_of_pos fun c member =>
        blank c (List.mem_reverse.mp member), trimEnd]
  have none : after.dropWhile isWhiteSpace = [] :=
    (dropWhile_eq_nil_iff _ _).mpr blank
  rw [trim, trim, trimStart, trimStart, List.dropWhile_append, none]
  cases start : text.dropWhile isWhiteSpace with
  | nil => rfl
  | cons c rest => exact back (c :: rest)

theorem trim_blank_append {before text : Text}
    (blank : ∀ c ∈ before, isWhiteSpace c = true) :
    trim (before ++ text) = trim text := by
  rw [trim, trim, trimStart, trimStart, List.dropWhile_append_of_pos blank]

/-- A character that is no white space stands before the white space at the
end. -/
theorem exists_of_append_eq_append_cons {front body text after : Text}
    {c : Char} (ink : isWhiteSpace c = false)
    (blank : ∀ c ∈ after, isWhiteSpace c = true)
    (whole : text ++ after = front ++ c :: body) :
    ∃ start, text = front ++ c :: start ∧ body = start ++ after := by
  have outside : c ∉ after := by
    intro member
    rw [blank c member] at ink
    cases ink
  rcases List.append_eq_append_iff.mp whole with
    ⟨more, _, tail⟩ | ⟨start, front, tail⟩
  · exact (outside (by simp [tail])).elim
  · cases start with
    | nil =>
        rw [List.nil_append] at tail
        exact (outside (by simp [← tail])).elim
    | cons first others =>
        obtain ⟨rfl, rfl⟩ := List.cons.inj tail
        exact ⟨others, front, rfl⟩

/-- The codes of the characters that are white space. -/
def whiteSpaceCodes : List Nat :=
  [0x09, 0x0A, 0x0B, 0x0C, 0x0D, 0x20, 0x85, 0xA0, 0x1680, 0x2000, 0x2001,
    0x2002, 0x2003, 0x2004, 0x2005, 0x2006, 0x2007, 0x2008, 0x2009, 0x200A,
    0x2028, 0x2029, 0x202F, 0x205F, 0x3000]

theorem toNat_mem_whiteSpaceCodes {c : Char}
    (space : isWhiteSpace c = true) : c.toNat ∈ whiteSpaceCodes := by
  simp only [isWhiteSpace, Bool.or_eq_true, Bool.and_eq_true,
    decide_eq_true_eq, beq_iff_eq] at space
  simp only [whiteSpaceCodes, List.mem_cons, List.not_mem_nil, or_false]
  omega

private theorem digitZeros_avoid_whiteSpace :
    ∀ start ∈ digitZeros, ∀ code ∈ whiteSpaceCodes,
      code < start ∨ start + 10 ≤ code := by
  decide +kernel

theorem isWhiteSpace_eq_false_of_isDecimalDigit {c : Char}
    (digit : isDecimalDigit c = true) : isWhiteSpace c = false := by
  cases space : isWhiteSpace c with
  | false => rfl
  | true =>
      obtain ⟨start, member, range⟩ := List.any_eq_true.mp digit
      have apart := digitZeros_avoid_whiteSpace start member c.toNat
        (toNat_mem_whiteSpaceCodes space)
      simp only [Bool.and_eq_true, decide_eq_true_eq] at range
      omega

theorem isDecimalDigit_of_isDigit {c : Char} (digit : c.isDigit = true) :
    isDecimalDigit c = true := by
  have range : 0x30 ≤ c.toNat ∧ c.toNat < 0x30 + 10 := by
    simp only [Char.isDigit, Bool.and_eq_true, decide_eq_true_eq] at digit
    exact ⟨digit.1, Nat.lt_succ_of_le digit.2⟩
  exact List.any_eq_true.mpr ⟨0x30, by simp [digitZeros], by simpa using range⟩

end Text

end AccessAudit
