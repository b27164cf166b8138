import AccessAudit.Number.Binary64
import AccessAudit.Verdict

/-!
# Tallies

Counts of verdicts by status.  Recording and merging add counts, so a tally
may be collected in pieces.  The rate of compliance is the share of compliant
files among the actionable ones.
-/

namespace AccessAudit

/-- How many verdicts there are of every status. -/
structure Tally where
  compliant : Nat
  notNeeded : Nat
  needsMigration : Nat
  partialReview : Nat
  notFound : Nat
deriving DecidableEq, Repr

namespace Tally

def empty : Tally := ⟨0, 0, 0, 0, 0⟩

def count (tally : Tally) : Status → Nat
  | .compliant => tally.compliant
  | .notNeeded => tally.notNeeded
  | .needsMigration => tally.needsMigration
  | .partialReview => tally.partialReview
  | .notFound => tally.notFound

/-- Count one more verdict of the given status. -/
def recordStatus (tally : Tally) (status : Status) : Tally :=
  match status with
  | .compliant => { tally with compliant := tally.compliant + 1 }
  | .notNeeded => { tally with notNeeded := tally.notNeeded + 1 }
  | .needsMigration =>
      { tally with needsMigration := tally.needsMigration + 1 }
  | .partialReview => { tally with partialReview := tally.partialReview + 1 }
  | .notFound => { tally with notFound := tally.notFound + 1 }

def record (tally : Tally) (verdict : Verdict) : Tally :=
  tally.recordStatus verdict.status

/-- Add the counts of another tally. -/
def merge (tally other : Tally) : Tally where
  compliant := tally.compliant + other.compliant
  notNeeded := tally.notNeeded + other.notNeeded
  needsMigration := tally.needsMigration + other.needsMigration
  partialReview := tally.partialReview + other.partialReview
  notFound := tally.notFound + other.notFound

/-- The tally of a list of verdicts. -/
def collect (verdicts : List Verdict) : Tally :=
  verdicts.foldl record empty

def total (tally : Tally) : Nat :=
  tally.compliant + tally.notNeeded + tally.needsMigration +
    tally.partialReview + tally.notFound

/-- The number of files that the policy grades. -/
def actionable (tally : Tally) : Nat :=
  tally.compliant + tally.needsMigration + tally.partialReview

/-- The percentage of actionable files that are compliant, computed in double
precision: quotient first, then times one hundred. -/
def complianceRate? (tally : Tally) : Option Binary64 :=
  if tally.actionable = 0 then
    none
  else
    some ((Binary64.ofNat tally.compliant).div
      (Binary64.ofNat tally.actionable) |>.mul (Binary64.ofNat 100))

@[simp]
theorem count_empty (status : Status) : empty.count status = 0 := by
  cases status <;> rfl

@[simp]
theorem count_recordStatus (tally : Tally) (recorded status : Status) :
    (tally.recordStatus recorded).count status =
      tally.count status + if recorded = status then 1 else 0 := by
  cases recorded <;> cases status <;> rfl

@[simp]
theorem count_merge (tally other : Tally) (status : Status) :
    (tally.merge other).count status =
      tally.count status + other.count status := by
  cases status <;> rfl

/-- A tally is determined by its counts. -/
theorem ext_count {tally other : Tally}
    (same : ∀ status, tally.count status = other.count status) :
    tally = other := by
  cases tally
  cases other
  have first := same .compliant
  have second := same .notNeeded
  have third := same .needsMigration
  have fourth := same .partialReview
  have fifth := same .notFound
  simp only [count] at first second third fourth fifth
  subst first second third fourth fifth
  rfl

end Tally

end AccessAudit
