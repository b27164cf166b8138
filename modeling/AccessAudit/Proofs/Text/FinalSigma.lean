import AccessAudit.Text.LowerCase

/-!
# Lower-casing up to final sigmas

The letters around a capital sigma decide which of the two small sigmas it
becomes.  Once these count as one, every character is lower-cased by itself,
and the form of a part stands in the form of the whole.  A search for a word
without a sigma cannot tell the difference.
-/

namespace AccessAudit

namespace Text

/-- The final form of the small sigma counts as the other one. -/
def plainSigma (c : Char) : Char :=
  if c = 'ς' then 'σ' else c

/-- The lower-case form of a character that stands alone, up to final
sigmas. -/
def plainForm (c : Char) : Text :=
  (lowerCase [c]).map plainSigma

/-- Neither small sigma stands in the word. -/
def WithoutSigma (word : Text) : Prop :=
  ∀ letter ∈ word, letter ≠ 'σ' ∧ letter ≠ 'ς'

instance (word : Text) : Decidable word.WithoutSigma :=
  List.decidableBAll (fun letter : Char => letter ≠ 'σ' ∧ letter ≠ 'ς') word

theorem plainSigma_eq_iff {c letter : Char}
    (without : letter ≠ 'σ' ∧ letter ≠ 'ς') :
    plainSigma c = letter ↔ c = letter := by
  obtain ⟨notPlain, notFinal⟩ := without
  by_cases isFinal : c = 'ς'
  · rw [plainSigma, if_pos isFinal, isFinal]
    exact iff_of_false notPlain.symm notFinal.symm
  · rw [plainSigma, if_neg isFinal]

theorem WithoutSigma.map_plainSigma_eq_iff {word text : Text}
    (without : word.WithoutSigma) :
    text.map plainSigma = word ↔ text = word := by
  induction word generalizing text with
  | nil => exact List.map_eq_nil_iff
  | cons letter letters ih =>
      obtain ⟨here, later⟩ := List.forall_mem_cons.mp without
      cases text with
      | nil => exact Iff.rfl
      | cons c rest =>
          rw [List.map_cons, List.cons.injEq, List.cons.injEq,
            plainSigma_eq_iff here, ih later]

/-- The small sigmas count as one, whatever chooses between them. -/
theorem plainSigma_choice (isFinal : Bool) :
    plainSigma (if isFinal then 'ς' else 'σ') = 'σ' := by
  cases isFinal with
  | false => rfl
  | true => rfl

/-- What was passed and what follows makes no difference to the form of the
next character. -/
theorem map_plainSigma_lowerCaseAfter_cons (before : Text) (c : Char)
    (rest : Text) :
    (lowerCaseAfter before (c :: rest)).map plainSigma =
      plainForm c ++
        (lowerCaseAfter (c :: before) rest).map plainSigma := by
  rw [lowerCaseAfter, List.map_append, plainForm, lowerCase, lowerCaseAfter,
    lowerCaseAfter, List.append_nil]
  congr 1
  -- No other character's form depends on its neighbours.
  by_cases isSigma : c = 'Σ'
  · rw [if_pos isSigma, if_pos isSigma, List.map_singleton,
      List.map_singleton, plainSigma_choice, plainSigma_choice]
  · rw [if_neg isSigma, if_neg isSigma]

theorem map_plainSigma_lowerCaseAfter (before text : Text) :
    (lowerCaseAfter before text).map plainSigma = text.flatMap plainForm := by
  induction text generalizing before with
  | nil => rfl
  | cons c rest ih =>
      rw [map_plainSigma_lowerCaseAfter_cons, ih, List.flatMap_cons]

/-- Up to final sigmas, a text is lower-cased character by character. -/
theorem map_plainSigma_lowerCase (text : Text) :
    (lowerCase text).map plainSigma = text.flatMap plainForm :=
  map_plainSigma_lowerCaseAfter [] text

/-- A word without a sigma is found in the forms of the single characters
exactly if it is found in the form of the text. -/
theorem WithoutSigma.infix_lowerCase_iff {word text : Text}
    (without : word.WithoutSigma) :
    word <:+: lowerCase text ↔ word <:+: text.flatMap plainForm := by
  rw [← map_plainSigma_lowerCase, List.infix_map_iff]
  constructor
  · intro found
    exact ⟨word, found, (without.map_plainSigma_eq_iff.mpr rfl).symm⟩
  · intro found
    obtain ⟨part, isPart, same⟩ := found
    rwa [← without.map_plainSigma_eq_iff.mp same.symm]

/-- No surroundings hide a word without a sigma. -/
theorem WithoutSigma.infix_lowerCase_mono {word part whole : Text}
    (without : word.WithoutSigma) (within : part <:+: whole)
    (found : word <:+: lowerCase part) : word <:+: lowerCase whole := by
  obtain ⟨before, after, rfl⟩ := within
  rw [without.infix_lowerCase_iff] at found ⊢
  apply found.trans
  rw [List.flatMap_append, List.flatMap_append]
  exact List.infix_append _ _ _

/-- A letter behind a final sigma takes its form away. -/
example : mentions (lowerCase "ΟΔΟΣ".toList) "ς".toList = true ∧
    mentions (lowerCase "ΟΔΟΣΑ".toList) "ς".toList = false := by
  decide +kernel

end Text

end AccessAudit
