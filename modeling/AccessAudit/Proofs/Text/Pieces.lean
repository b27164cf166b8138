import AccessAudit.Text.Basic

/-!
# Pieces between separators

Cutting a text at a separator and joining texts by it undo each other, where
no joined text holds the separator.
-/

namespace AccessAudit

namespace Text

variable {α : Type}

theorem pieces_of_not_mem [DecidableEq α] {separator : α} {text : List α}
    (absent : separator ∉ text) : pieces separator text = [text] := by
  induction text with
  | nil => rfl
  | cons c rest ih =>
      have different : c ≠ separator := by
        intro same
        exact absent (by simp [same])
      have restAbsent : separator ∉ rest := fun member =>
        absent (List.mem_cons_of_mem c member)
      simp [pieces, different, ih restAbsent]

/-- The first piece of a text ends at the first separator. -/
theorem pieces_append_cons [DecidableEq α] {separator : α} {first : List α}
    (absent : separator ∉ first) (rest : List α) :
    pieces separator (first ++ separator :: rest) =
      first :: pieces separator rest := by
  induction first with
  | nil => simp [pieces]
  | cons c others ih =>
      have different : c ≠ separator := by
        intro same
        exact absent (by simp [same])
      have othersAbsent : separator ∉ others := fun member =>
        absent (List.mem_cons_of_mem c member)
      simp [pieces, different, ih othersAbsent]

theorem not_mem_of_mem_pieces [DecidableEq α] {separator : α}
    {text piece : List α} (member : piece ∈ pieces separator text) :
    separator ∉ piece := by
  induction text generalizing piece with
  | nil =>
      have equality : piece = [] := by simpa [pieces] using member
      simp [equality]
  | cons c rest ih =>
      simp only [pieces] at member
      split at member
      · rcases List.mem_cons.mp member with first | later
        · simp [first]
        · exact ih later
      · next different =>
          cases cut : pieces separator rest with
          | nil => exact absurd cut (pieces_ne_nil separator rest)
          | cons first others =>
              rw [cut] at member ih
              rcases List.mem_cons.mp member with extended | later
              · subst piece
                have firstAbsent : separator ∉ first :=
                  ih List.mem_cons_self
                simp [firstAbsent, Ne.symm different]
              · exact ih (List.mem_cons_of_mem first later)

/-- Texts without the separator are the pieces of their join. -/
theorem pieces_joinWith [DecidableEq α] {separator : α} {parts : List (List α)}
    (nonempty : parts ≠ []) (absent : ∀ part ∈ parts, separator ∉ part) :
    pieces separator (joinWith [separator] parts) = parts := by
  induction parts with
  | nil => exact absurd rfl nonempty
  | cons first others ih =>
      have firstAbsent := absent first List.mem_cons_self
      cases others with
      | nil => exact pieces_of_not_mem firstAbsent
      | cons second further =>
          have later := ih (by simp) fun part member =>
            absent part (List.mem_cons_of_mem first member)
          simp only [joinWith, List.append_assoc, List.singleton_append]
          rw [pieces_append_cons firstAbsent, later]

/-- The pieces on both sides of a separator stand next to each other. -/
theorem pieces_append_separator [DecidableEq α] {separator : α}
    (front back : List α) :
    pieces separator (front ++ separator :: back) =
      pieces separator front ++ pieces separator back := by
  induction front with
  | nil => simp [pieces]
  | cons c others ih =>
      rw [List.cons_append, pieces, ih, pieces]
      split
      · rfl
      · cases cut : pieces separator others with
        | nil => exact absurd cut (pieces_ne_nil separator others)
        | cons first more => rfl

theorem joinWith_append {separator : List α} {front back : List (List α)}
    (frontNonempty : front ≠ []) (backNonempty : back ≠ []) :
    joinWith separator (front ++ back) =
      joinWith separator front ++ separator ++ joinWith separator back := by
  induction front with
  | nil => exact absurd rfl frontNonempty
  | cons first others ih =>
      cases others with
      | nil =>
          obtain ⟨second, more, rfl⟩ := List.exists_cons_of_ne_nil backNonempty
          rfl
      | cons second further =>
          have later := ih (by simp)
          simp only [List.cons_append, joinWith, List.append_assoc] at later ⊢
          rw [later]

theorem not_mem_joinWith {separator : List α} {parts : List (List α)} {c : α}
    (notSeparator : c ∉ separator) (absent : ∀ part ∈ parts, c ∉ part) :
    c ∉ joinWith separator parts := by
  induction parts with
  | nil => simp [joinWith]
  | cons first others ih =>
      have inFirst := absent first List.mem_cons_self
      have inOthers := ih fun part member =>
        absent part (List.mem_cons_of_mem first member)
      cases others with
      | nil => exact inFirst
      | cons second more =>
          simp only [joinWith, List.mem_append, not_or]
          exact ⟨⟨inFirst, notSeparator⟩, inOthers⟩

end Text

end AccessAudit
