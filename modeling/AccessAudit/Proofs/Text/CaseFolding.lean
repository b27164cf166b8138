import AccessAudit.Proofs.Text.LetterCase
import Mathlib.Data.List.Forall2

/-!
# Spellings up to case

Two characters are variants of one another if simple case folding makes them
equal.  For a letter of ASCII these are its small and its capital form, and for
two of them one character more.
-/

namespace AccessAudit

namespace Text

/-- The characters that simple case folding makes equal to an ASCII
character. -/
def caseVariants (letter : Char) : List Char :=
  [letter.toLower, letter.toUpper] ++
    (if letter.toLower = 's' then ['ſ']
    else if letter.toLower = 'k' then ['\u212A']
    else [])

/-- The first text is a spelling of the second, letter by letter and up to
case. -/
def Spells (spelling word : Text) : Prop :=
  List.Forall₂ (fun c letter => c ∈ caseVariants letter) spelling word

/-- All characters of the text are ASCII. -/
def InAscii (text : Text) : Prop :=
  ∀ letter ∈ text, letter.toNat < 128

instance (text : Text) : Decidable text.InAscii :=
  List.decidableBAll (fun letter : Char => letter.toNat < 128) text

/-- What holds of 128 characters holds of all ASCII characters. -/
theorem ascii_induction (holds : Char → Prop)
    (each : ∀ code < 128, holds (Char.ofNat code)) {c : Char}
    (ascii : c.toNat < 128) : holds c := by
  have found := each c.toNat ascii
  rwa [Char.ofNat_toNat] at found

theorem foldToAscii_toLower {letter : Char} (ascii : letter.toNat < 128) :
    foldToAscii letter.toLower = letter.toLower :=
  ascii_induction (fun letter => foldToAscii letter.toLower = letter.toLower)
    (by decide +kernel) ascii

theorem foldToAscii_toUpper {letter : Char} (ascii : letter.toNat < 128) :
    foldToAscii letter.toUpper = letter.toLower :=
  ascii_induction (fun letter => foldToAscii letter.toUpper = letter.toLower)
    (by decide +kernel) ascii

theorem toUpper_toLower {letter : Char} (ascii : letter.toNat < 128) :
    letter.toLower.toUpper = letter.toUpper :=
  ascii_induction (fun letter => letter.toLower.toUpper = letter.toUpper)
    (by decide +kernel) ascii

theorem toUpper_toLower_capital :
    ∀ position < 26,
      (Char.ofNat (65 + position)).toLower.toUpper =
        Char.ofNat (65 + position) := by
  decide +kernel

theorem foldToAscii_of_mem_caseVariants {c letter : Char}
    (ascii : letter.toNat < 128) (variant : c ∈ caseVariants letter) :
    foldToAscii c = letter.toLower := by
  rw [caseVariants, List.mem_append] at variant
  rcases variant with ofLetter | beyondAscii
  · rcases List.mem_pair.mp ofLetter with rfl | rfl
    · exact foldToAscii_toLower ascii
    · exact foldToAscii_toUpper ascii
  · split at beyondAscii
    · next isS =>
        obtain rfl := List.mem_singleton.mp beyondAscii
        rw [isS]
        rfl
    · split at beyondAscii
      · next isK =>
          obtain rfl := List.mem_singleton.mp beyondAscii
          rw [isK]
          rfl
      · cases beyondAscii

theorem foldToAscii_eq_iff {c letter : Char} (ascii : letter.toNat < 128) :
    foldToAscii c = letter.toLower ↔ c ∈ caseVariants letter := by
  refine ⟨?_, foldToAscii_of_mem_caseVariants ascii⟩
  intro folded
  rw [foldToAscii] at folded
  split at folded
  · next isLongS =>
      subst isLongS
      simp [caseVariants, ← folded]
  · split at folded
    · next isKelvin =>
        have kelvin : c = '\u212A' := by
          rw [← Char.ofNat_toNat c, isKelvin]
        subst kelvin
        simp [caseVariants, ← folded]
    · rcases toLower_cases c with stays | ⟨position, bound, rfl⟩
      · rw [stays] at folded
        simp [caseVariants, folded]
      · have capital : Char.ofNat (65 + position) = letter.toUpper := by
          rw [← toUpper_toLower ascii, ← folded,
            toUpper_toLower_capital position bound]
        simp [caseVariants, capital]

theorem spells_iff {spelling word : Text}
    (ascii : word.InAscii) :
    Spells spelling word ↔
      spelling.map foldToAscii = word.map Char.toLower := by
  induction word generalizing spelling with
  | nil => simp [Spells]
  | cons letter rest ih =>
      obtain ⟨letterAscii, restAscii⟩ := List.forall_mem_cons.mp ascii
      cases spelling with
      | nil => simp [Spells]
      | cons c others =>
          have later : Spells others rest ↔
              others.map foldToAscii = rest.map Char.toLower := ih restAscii
          rw [Spells, List.forall₂_cons, ← foldToAscii_eq_iff letterAscii,
            List.map_cons, List.map_cons, List.cons.injEq, ← later, Spells]

/-- A text begins with a word up to case exactly if folding turns its beginning
into the word. -/
theorem exists_spells_append_iff {text word : Text}
    (ascii : word.InAscii) :
    (∃ spelling rest, text = spelling ++ rest ∧ Spells spelling word) ↔
      word.map Char.toLower <+: text.map foldToAscii := by
  constructor
  · rintro ⟨spelling, rest, rfl, spells⟩
    rw [List.map_append, (spells_iff ascii).mp spells]
    exact List.prefix_append _ _
  · intro begins
    refine ⟨text.take word.length, text.drop word.length,
      (List.take_append_drop _ _).symm, ?_⟩
    have taken := List.prefix_iff_eq_take.mp begins
    rw [List.length_map] at taken
    rw [spells_iff ascii, List.map_take, taken]

end Text

end AccessAudit
