import AccessAudit.Proofs.Text.Digits
import AccessAudit.Style

/-!
# Erasing styles

A style sequence is an escape, a bracket, parameters and the letter `m`.
`eraseStyles` deletes all of them from a text.  A painted text without escapes
of its own erases to the text itself, whatever stands around it.
-/

namespace AccessAudit

namespace Style

/-- The character that every style sequence begins with. -/
def escape : Char := '\x1b'

/-- May the character stand among the parameters of a style sequence? -/
def isParameter (c : Char) : Bool :=
  c.isDigit || c == ';' || c == ':'

/-- What follows the style sequence at the beginning of a text. -/
def after? : Text → Option Text
  | first :: '[' :: rest =>
      if first = escape then
        match rest.dropWhile isParameter with
        | 'm' :: after => some after
        | _ => none
      else none
  | _ => none

theorem length_lt_of_after? {text after : Text}
    (found : after? text = some after) : after.length < text.length := by
  rw [after?.eq_def] at found
  split at found
  · next first rest =>
      have shorter :=
        (List.dropWhile_suffix isParameter (l := rest)).length_le
      split at found
      · split at found
        · next ended =>
            cases found
            rw [ended] at shorter
            simp only [List.length_cons] at shorter ⊢
            omega
        · cases found
      · cases found
  · cases found

theorem after?_of_ne {c : Char} (different : c ≠ escape) (rest : Text) :
    after? (c :: rest) = none := by
  rw [after?.eq_def]
  split
  · next same =>
      cases same
      exact if_neg different
  · rfl

end Style

/-- Delete every style sequence. -/
def eraseStyles : Text → Text
  | [] => []
  | c :: rest =>
      match _found : Style.after? (c :: rest) with
      | some after => eraseStyles after
      | none => c :: eraseStyles rest
termination_by text => text.length
decreasing_by
  · exact Style.length_lt_of_after? (by assumption)
  · simp

/-- Only whole sequences are deleted. -/
example : eraseStyles "\x1b[1;32mok\x1b[0m \x1b[3".toList =
    "ok \x1b[3".toList := by
  decide +kernel

namespace Text

/-- No character of the text begins a style sequence. -/
def EscapeFree (text : Text) : Prop :=
  Style.escape ∉ text

instance (text : Text) : Decidable text.EscapeFree :=
  inferInstanceAs (Decidable (Style.escape ∉ text))

variable {first second : Text}

theorem EscapeFree.append (firstFree : first.EscapeFree)
    (secondFree : second.EscapeFree) : EscapeFree (first ++ second) := by
  rw [EscapeFree, List.mem_append, not_or]
  exact ⟨firstFree, secondFree⟩

theorem EscapeFree.line (free : first.EscapeFree) :
    EscapeFree (Text.line first) :=
  free.append (by decide)

theorem EscapeFree.remark (labelFree : first.EscapeFree)
    (free : second.EscapeFree) :
    EscapeFree (Text.remark first second) := by
  rw [Text.remark]
  split
  · exact List.not_mem_nil
  · exact (labelFree.append free).line

theorem escapeFree_ofNat (number : Nat) : EscapeFree (Text.ofNat number) := by
  intro member
  have digit := isDigit_of_mem_ofNat member
  revert digit
  decide

end Text

theorem eraseStyles_of_after? {text after : Text}
    (found : Style.after? text = some after) :
    eraseStyles text = eraseStyles after := by
  cases text with
  | nil => cases found
  | cons c rest =>
      rw [eraseStyles]
      split
      · next same =>
          rw [found] at same
          cases same
          rfl
      · next none =>
          rw [found] at none
          cases none

theorem eraseStyles_cons {c : Char} (different : c ≠ Style.escape)
    (rest : Text) : eraseStyles (c :: rest) = c :: eraseStyles rest := by
  have none := Style.after?_of_ne different rest
  rw [eraseStyles]
  split
  · next found =>
      rw [none] at found
      cases found
  · rfl

/-- Whatever follows, erasing the styles of the first text leaves the
second. -/
def ErasesTo (colored plain : Text) : Prop :=
  ∀ rest, eraseStyles (colored ++ rest) = plain ++ eraseStyles rest

namespace ErasesTo

variable {colored plain colored' plain' : Text}

theorem eraseStyles_eq (erases : ErasesTo colored plain) :
    eraseStyles colored = plain := by
  have whole := erases []
  rwa [List.append_nil, eraseStyles, List.append_nil] at whole

theorem nil : ErasesTo [] [] :=
  fun _ => rfl

theorem append (first : ErasesTo colored plain)
    (second : ErasesTo colored' plain') :
    ErasesTo (colored ++ colored') (plain ++ plain') := by
  intro rest
  rw [List.append_assoc, first, second, List.append_assoc]

theorem of_escapeFree {text : Text} (free : text.EscapeFree) :
    ErasesTo text text := by
  intro rest
  induction text with
  | nil => rfl
  | cons c others ih =>
      have different : c ≠ Style.escape := by
        rintro rfl
        exact free List.mem_cons_self
      have othersFree : Text.EscapeFree others := fun member =>
        free (List.mem_cons_of_mem c member)
      rw [List.cons_append, eraseStyles_cons different, ih othersFree,
        List.cons_append]

/-- A style begins with a sequence that vanishes. -/
theorem start (style : Style) : ErasesTo style.start [] := by
  intro rest
  apply eraseStyles_of_after?
  cases style <;> rfl

theorem reset : ErasesTo Style.reset [] := by
  intro rest
  exact eraseStyles_of_after? rfl

theorem paint (style : Style) {text : Text} (free : text.EscapeFree) :
    ErasesTo (style.paint true text) (style.paint false text) := by
  have painted := ((start style).append (of_escapeFree free)).append reset
  rwa [List.nil_append, List.append_nil] at painted

theorem line (erases : ErasesTo colored plain) :
    ErasesTo (Text.line colored) (Text.line plain) :=
  erases.append (of_escapeFree (by decide))

theorem flatMap {α : Type} {items : List α} {colored plain : α → Text}
    (each : ∀ item ∈ items, ErasesTo (colored item) (plain item)) :
    ErasesTo (items.flatMap colored) (items.flatMap plain) := by
  induction items with
  | nil => exact nil
  | cons item rest ih =>
      rw [List.flatMap_cons, List.flatMap_cons]
      exact (each item List.mem_cons_self).append
        (ih fun other member => each other (List.mem_cons_of_mem item member))

end ErasesTo

end AccessAudit
