import AccessAudit.Text.Basic

/-!
# White space

The characters with the Unicode property `White_Space`, and the removal of
white space from both ends of a text.  `trim_eq_nil_iff` says that trimming
leaves nothing exactly of texts made of white space alone.
-/

namespace AccessAudit

namespace Text

/-- The 25 characters with the Unicode property `White_Space`. -/
def isWhiteSpace (c : Char) : Bool :=
  let code := c.toNat
  (0x09 ≤ code && code ≤ 0x0D) || code == 0x20 || code == 0x85 ||
    code == 0xA0 || code == 0x1680 || (0x2000 ≤ code && code ≤ 0x200A) ||
    code == 0x2028 || code == 0x2029 || code == 0x202F || code == 0x205F ||
    code == 0x3000

/-- Remove white space at the start. -/
def trimStart (text : Text) : Text :=
  text.dropWhile isWhiteSpace

/-- Remove white space at the end. -/
def trimEnd (text : Text) : Text :=
  (text.reverse.dropWhile isWhiteSpace).reverse

/-- Remove white space at both ends. -/
def trim (text : Text) : Text :=
  trimEnd (trimStart text)

theorem dropWhile_eq_nil_iff (holds : Char → Bool) (text : Text) :
    text.dropWhile holds = [] ↔ ∀ c ∈ text, holds c = true := by
  induction text with
  | nil => simp
  | cons c rest ih =>
      rw [List.dropWhile_cons]
      by_cases here : holds c = true
      · simp [here, ih]
      · simp [here]

/-- Trimming leaves nothing exactly when every character is white space. -/
theorem trim_eq_nil_iff (text : Text) :
    trim text = [] ↔ ∀ c ∈ text, isWhiteSpace c = true := by
  constructor
  · intro empty c member
    have allInner : ∀ d ∈ trimStart text, isWhiteSpace d = true := by
      intro d inner
      have none : (trimStart text).reverse.dropWhile isWhiteSpace = [] := by
        simpa [trim, trimEnd] using empty
      exact (dropWhile_eq_nil_iff _ _).mp none d (List.mem_reverse.mpr inner)
    rw [← List.takeWhile_append_dropWhile (p := isWhiteSpace) (l := text)]
      at member
    rcases List.mem_append.mp member with before | after
    · exact List.all_eq_true.mp (List.all_takeWhile) c before
    · exact allInner c after
  · intro all
    have none : trimStart text = [] := (dropWhile_eq_nil_iff _ _).mpr all
    simp [trim, trimEnd, none]

end Text

end AccessAudit
