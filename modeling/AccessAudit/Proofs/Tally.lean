import AccessAudit.Tally
import Mathlib.Algebra.Ring.Nat

/-!
# What a tally counts

Every count of a collected tally is the number of verdicts of that status, and
its total is the number of all verdicts.
-/

namespace AccessAudit

namespace Tally

theorem total_empty : empty.total = 0 :=
  rfl

theorem sum_map_count (tally : Tally) :
    (Status.all.map tally.count).sum = tally.total := by
  simp only [Status.all, List.map_cons, List.map_nil, List.sum_cons,
    List.sum_nil, count, total]
  omega

theorem count_le_total (tally : Tally) (status : Status) :
    tally.count status ≤ tally.total := by
  cases status <;> simp only [count, total] <;> omega

theorem total_merge (tally other : Tally) :
    (tally.merge other).total = tally.total + other.total := by
  simp only [merge, total]
  omega

theorem actionable_le_total (tally : Tally) :
    tally.actionable ≤ tally.total := by
  simp only [actionable, total]
  omega

theorem count_foldl_record (verdicts : List Verdict) (tally : Tally)
    (status : Status) :
    (verdicts.foldl record tally).count status =
      tally.count status + verdicts.countP (·.status = status) := by
  induction verdicts generalizing tally with
  | nil => simp
  | cons verdict rest ih =>
      rw [List.foldl_cons, ih, record, count_recordStatus, List.countP_cons]
      simp only [decide_eq_true_eq]
      omega

theorem count_collect (verdicts : List Verdict) (status : Status) :
    (collect verdicts).count status =
      verdicts.countP (·.status = status) := by
  simp [collect, count_foldl_record]

@[simp]
theorem total_recordStatus (tally : Tally) (status : Status) :
    (tally.recordStatus status).total = tally.total + 1 := by
  cases status <;> simp only [recordStatus, total] <;> omega

theorem total_foldl_record (verdicts : List Verdict) (tally : Tally) :
    (verdicts.foldl record tally).total =
      tally.total + verdicts.length := by
  induction verdicts generalizing tally with
  | nil => simp
  | cons verdict rest ih =>
      rw [List.foldl_cons, ih, record, total_recordStatus, List.length_cons]
      omega

theorem total_collect (verdicts : List Verdict) :
    (collect verdicts).total = verdicts.length := by
  rw [collect, total_foldl_record, total_empty,
    Nat.zero_add]

end Tally

end AccessAudit
