import AccessAudit.Proofs.Text.Pieces

/-!
# Cutting a text into lines

A text is cut at its line feeds.  `lines_line_append` reads one line off the
front of a text, and `length_lines` counts the lines by counting line feeds.
-/

namespace AccessAudit

namespace Text

theorem dropFinalReturn_sublist (content : Text) :
    (dropFinalReturn content).Sublist content := by
  unfold dropFinalReturn
  split
  · exact List.dropLast_sublist content
  · exact List.Sublist.refl content

@[simp]
theorem lines_nil : lines [] = [] := rfl

/-- A line that is closed by a line feed is the first line of the text that
begins with it. -/
theorem lines_line_append {content : Text} (absent : '\n' ∉ content)
    (rest : Text) :
    lines (line content ++ rest) = dropFinalReturn content :: lines rest := by
  have cut : pieces '\n' (line content ++ rest) =
      content :: pieces '\n' rest := by
    simpa [line] using pieces_append_cons absent rest
  have others := pieces_ne_nil '\n' rest
  unfold lines
  simp only [cut, List.dropLast_cons_of_ne_nil others, List.map_cons,
    List.getLast?_cons]
  cases last : (pieces '\n' rest).getLast? with
  | none => exact absurd (List.getLast?_eq_none_iff.mp last) others
  | some final => cases final <;> simp

/-- A text without line feed is one line, unless it is empty. -/
theorem lines_of_not_mem {text : Text} (absent : '\n' ∉ text)
    (nonempty : text ≠ []) : lines text = [text] := by
  obtain ⟨c, rest, rfl⟩ := List.exists_cons_of_ne_nil nonempty
  simp [lines, pieces_of_not_mem absent]

/-- A text has no line feed, or it begins with a closed line. -/
theorem closedLine_or_not_mem (text : Text) :
    '\n' ∉ text ∨
      ∃ first rest, '\n' ∉ first ∧ text = line first ++ rest := by
  by_cases member : '\n' ∈ text
  · obtain ⟨first, rest, equality, absent⟩ :=
      List.eq_append_cons_of_mem member
    exact Or.inr ⟨first, rest, absent, by simp [equality, line]⟩
  · exact Or.inl member

/-- What holds of the empty text and of one unfinished line, and is kept when
a closed line is put in front, holds of every text. -/
theorem lineInduction {motive : Text → Prop} (empty : motive [])
    (unfinished : ∀ text, '\n' ∉ text → text ≠ [] → motive text)
    (closed : ∀ first rest, '\n' ∉ first → motive rest →
      motive (line first ++ rest))
    (text : Text) : motive text := by
  rcases closedLine_or_not_mem text with absent | ⟨first, rest, absent, cut⟩
  · by_cases nonempty : text = []
    · exact nonempty ▸ empty
    · exact unfinished text absent nonempty
  · rw [cut]
    exact closed first rest absent
      (lineInduction empty unfinished closed rest)
termination_by text.length
decreasing_by
  simp [cut, line]
  omega

theorem not_mem_of_mem_lines {text content : Text}
    (member : content ∈ lines text) : '\n' ∉ content := by
  induction text using lineInduction with
  | empty => simp at member
  | unfinished text absent nonempty =>
      have equality : content = text := by
        simpa [lines_of_not_mem absent nonempty] using member
      exact equality ▸ absent
  | closed first rest absent ih =>
      rw [lines_line_append absent] at member
      rcases List.mem_cons.mp member with here | later
      · rw [here]
        exact fun feed =>
          absent ((dropFinalReturn_sublist first).subset feed)
      · exact ih later

/-- The lines of a text are its line feeds, and one line more where the text
ends in something else than a line feed. -/
theorem length_lines (text : Text) :
    (lines text).length = text.count '\n' +
      if text = [] ∨ text.getLast? = some '\n' then 0 else 1 := by
  induction text using lineInduction with
  | empty => rfl
  | unfinished text absent nonempty =>
      have notLast : text.getLast? ≠ some '\n' := fun last =>
        absent (List.mem_of_getLast? last)
      simp [lines_of_not_mem absent nonempty, nonempty, notLast,
        List.count_eq_zero_of_not_mem absent]
  | closed first rest absent ih =>
      have feeds : (line first ++ rest).count '\n' =
          rest.count '\n' + 1 := by
        simp [line, List.count_eq_zero_of_not_mem absent]
      rw [lines_line_append absent, List.length_cons, ih, feeds]
      cases rest with
      | nil => simp [line]
      | cons c others => simp [line, List.getLast?_cons]; omega

end Text

end AccessAudit
