import AccessAudit.Report

/-!
# The stable order of report rows

Rows are in stable order if their line numbers ascend and the rows of any one
line number stand as they stood before.  There is one such order of any rows,
and the rows of a report are in it.
-/

namespace AccessAudit

/-- The rows that carry one line number. -/
def rowsOfLine (index : Nat) (rows : List ReportRow) : List ReportRow :=
  rows.filter (·.index = index)

/-- One list of rows is the other in the order of line numbers, with the rows
of every line number in their old order. -/
structure StablySorted (sorted rows : List ReportRow) : Prop where
  perm : sorted.Perm rows
  ascending : (sorted.map (·.index)).Pairwise (· ≤ ·)
  stable : ∀ index, rowsOfLine index sorted = rowsOfLine index rows

namespace StablySorted

/-- Rows of one line number ascend already, so sorting keeps them. -/
theorem mergeSort (rows : List ReportRow) :
    StablySorted (rows.mergeSort fun a b => a.index ≤ b.index) rows := by
  have trans : ∀ a b c : ReportRow, decide (a.index ≤ b.index) = true →
      decide (b.index ≤ c.index) = true →
        decide (a.index ≤ c.index) = true := by
    intro a b c first second
    simp only [decide_eq_true_eq] at first second ⊢
    exact Nat.le_trans first second
  have total : ∀ a b : ReportRow,
      (decide (a.index ≤ b.index) || decide (b.index ≤ a.index)) = true := by
    intro a b
    simpa using Nat.le_total a.index b.index
  have perm := List.mergeSort_perm rows fun a b => a.index ≤ b.index
  refine ⟨perm, ?_, ?_⟩
  · have sorted := List.pairwise_mergeSort trans total rows
    rw [List.pairwise_map]
    exact sorted.imp fun before => of_decide_eq_true before
  · intro index
    have alike : (rowsOfLine index rows).Pairwise
        fun a b => decide (a.index ≤ b.index) = true := by
      apply List.Pairwise.imp_of_mem (R := fun _ _ => True)
      · intro a b aMember bMember _
        have aIndex : a.index = index := by
          simpa using (List.mem_filter.mp aMember).2
        have bIndex : b.index = index := by
          simpa using (List.mem_filter.mp bMember).2
        simp [aIndex, bIndex]
      · exact List.pairwise_of_forall fun _ _ => trivial
    have kept := List.sublist_mergeSort trans total alike
      List.filter_sublist
    have filtered := kept.filter (·.index = index)
    have again : (rowsOfLine index rows).filter (·.index = index) =
        rowsOfLine index rows := by
      simp [rowsOfLine]
    rw [again] at filtered
    have count : (rowsOfLine index rows).length =
        (rowsOfLine index (rows.mergeSort fun a b =>
          a.index ≤ b.index)).length :=
      (perm.symm.filter _).length_eq
    exact (filtered.eq_of_length count).symm

variable {sorted other rows : List ReportRow}

/-- The first row of a stable order is the first of the least line number. -/
private theorem head_index_le {first second : ReportRow}
    {rest : List ReportRow}
    (ascending : ((first :: rest).map (·.index)).Pairwise (· ≤ ·))
    (member : second ∈ first :: rest) : first.index ≤ second.index := by
  rcases List.mem_cons.mp member with same | later
  · exact same ▸ Nat.le_refl first.index
  · rw [List.map_cons, List.pairwise_cons] at ascending
    exact ascending.1 _ (List.mem_map_of_mem later)

theorem unique (first : StablySorted sorted rows)
    (second : StablySorted other rows) : sorted = other := by
  have perm := first.perm.trans second.perm.symm
  have lines : ∀ index, rowsOfLine index sorted = rowsOfLine index other :=
    fun index => (first.stable index).trans (second.stable index).symm
  have ascending := first.ascending
  have otherAscending := second.ascending
  clear first second
  induction sorted generalizing other with
  | nil => exact perm.nil_eq
  | cons row rest ih =>
      cases other with
      | nil => exact absurd perm.symm.nil_eq (by simp)
      | cons otherRow others =>
          have same : row.index = otherRow.index := by
            apply Nat.le_antisymm
            · exact head_index_le ascending
                (perm.mem_iff.mpr List.mem_cons_self)
            · exact head_index_le otherAscending
                (perm.mem_iff.mp List.mem_cons_self)
          have here := lines row.index
          simp only [rowsOfLine, List.filter_cons, same, decide_true,
            if_true, List.cons.injEq] at here
          obtain ⟨rfl, _⟩ := here
          rw [List.map_cons, List.pairwise_cons] at ascending otherAscending
          have restPerm := perm.cons_inv
          rw [ih restPerm ?_ ascending.2 otherAscending.2]
          intro index
          have line := lines index
          simp only [rowsOfLine, List.filter_cons] at line ⊢
          split at line
          · exact List.tail_eq_of_cons_eq line
          · exact line

end StablySorted

/-- The rows of a report are the assessments of the entries in stable
order. -/
theorem Report.rows_stablySorted (source : ContentSource)
    (entries : List ManifestEntry) :
    StablySorted (ofEntries source entries).rows
      (entries.map (ReportRow.ofEntry source)) :=
  .mergeSort _

/-- Where no line number occurs twice, the order of the rows does not
matter. -/
theorem rowsOfLine_eq_of_perm {rows others : List ReportRow}
    (perm : rows.Perm others) (distinct : (rows.map (·.index)).Nodup)
    (index : Nat) : rowsOfLine index rows = rowsOfLine index others := by
  have linePerm : (rowsOfLine index rows).Perm (rowsOfLine index others) :=
    perm.filter _
  have lineDistinct : ((rowsOfLine index rows).map (·.index)).Nodup :=
    distinct.sublist (List.filter_sublist.map _)
  have lineIndex : ∀ row ∈ rowsOfLine index rows, row.index = index := by
    intro row member
    simpa using (List.mem_filter.mp member).2
  match cut : rowsOfLine index rows with
  | [] =>
      rw [cut] at linePerm
      exact linePerm.nil_eq
  | [row] =>
      rw [cut] at linePerm
      exact List.singleton_perm.mp linePerm
  | first :: second :: rest =>
      rw [cut] at lineDistinct lineIndex
      have firstIndex := lineIndex first (by simp)
      have secondIndex := lineIndex second (by simp)
      simp [firstIndex, secondIndex] at lineDistinct

end AccessAudit
