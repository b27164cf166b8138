import AccessAudit.Proofs.Tally

/-!
# Counting in machine words

The operations on tallies with every sum kept in a 64-bit word, where a sum
that does not fit is none.  As long as all that is ever counted fits into one
word, no sum overflows, and what comes out depends on what was recorded and
merged, but not on order or grouping.
-/

namespace AccessAudit

/-- The sum of two words, unless it overflows. -/
def addWords? (a b : Nat) : Option Nat :=
  if a + b < 2 ^ 64 then some (a + b) else none

/-- A computation goes on with a sum exactly if the sum fits. -/
theorem bind_addWords?_eq_some_iff {α : Type} {a b : Nat}
    {next : Nat → Option α} {result : α} :
    (addWords? a b >>= next) = some result ↔
      a + b < 2 ^ 64 ∧ next (a + b) = some result := by
  rw [addWords?]
  by_cases fits : a + b < 2 ^ 64
  · rw [if_pos fits]
    exact (and_iff_right fits).symm
  · rw [if_neg fits]
    exact iff_of_false nofun fun ⟨fits', _⟩ => fits fits'

theorem addWords?_eq_some_iff {a b sum : Nat} :
    addWords? a b = some sum ↔ a + b < 2 ^ 64 ∧ a + b = sum := by
  rw [addWords?, Option.ite_none_right_eq_some, Option.some.injEq]

namespace Tally

/-- One step of counting. -/
inductive Step
  | record (verdict : Verdict)
  | recordStatus (status : Status)
  | merge (other : Tally)

def step (tally : Tally) : Step → Tally
  | .record verdict => tally.record verdict
  | .recordStatus status => tally.recordStatus status
  | .merge other => tally.merge other

/-- A way to come to a tally: collect verdicts, take one more step, or count
apart and merge. -/
inductive Plan
  | collect (verdicts : List Verdict)
  | step (before : Plan) (next : Step)
  | merge (front back : Plan)

namespace Plan

def tally : Plan → Tally
  | .collect verdicts => Tally.collect verdicts
  | .step before next => before.tally.step next
  | .merge front back => front.tally.merge back.tally

/-- The steps of a plan, whatever its grouping. -/
def steps : Plan → List Step
  | .collect verdicts => verdicts.map .record
  | .step before next => before.steps ++ [next]
  | .merge front back => front.steps ++ back.steps

end Plan

/-! ### The operations in machine words -/

def recordStatus? (tally : Tally) : Status → Option Tally
  | .compliant => do
      return { tally with compliant := ← addWords? tally.compliant 1 }
  | .notNeeded => do
      return { tally with notNeeded := ← addWords? tally.notNeeded 1 }
  | .needsMigration => do
      return { tally with
        needsMigration := ← addWords? tally.needsMigration 1 }
  | .partialReview => do
      return { tally with partialReview := ← addWords? tally.partialReview 1 }
  | .notFound => do
      return { tally with notFound := ← addWords? tally.notFound 1 }

def record? (tally : Tally) (verdict : Verdict) : Option Tally :=
  tally.recordStatus? verdict.status

def merge? (tally other : Tally) : Option Tally := do
  return {
    compliant := ← addWords? tally.compliant other.compliant
    notNeeded := ← addWords? tally.notNeeded other.notNeeded
    needsMigration := ← addWords? tally.needsMigration other.needsMigration
    partialReview := ← addWords? tally.partialReview other.partialReview
    notFound := ← addWords? tally.notFound other.notFound }

def collect? (verdicts : List Verdict) : Option Tally :=
  verdicts.foldlM record? empty

/-- The total, summed up from left to right. -/
def total? (tally : Tally) : Option Nat := do
  let sum ← addWords? tally.compliant tally.notNeeded
  let sum ← addWords? sum tally.needsMigration
  let sum ← addWords? sum tally.partialReview
  addWords? sum tally.notFound

def actionable? (tally : Tally) : Option Nat := do
  let sum ← addWords? tally.compliant tally.needsMigration
  addWords? sum tally.partialReview

def step? (tally : Tally) : Step → Option Tally
  | .record verdict => tally.record? verdict
  | .recordStatus status => tally.recordStatus? status
  | .merge other => tally.merge? other

/-- Collect verdicts in words and go on with the steps. -/
def run? (verdicts : List Verdict) (steps : List Step) : Option Tally := do
  steps.foldlM step? (← collect? verdicts)

def Plan.tally? : Plan → Option Tally
  | .collect verdicts => Tally.collect? verdicts
  | .step before next => do (← before.tally?).step? next
  | .merge front back => do (← front.tally?).merge? (← back.tally?)

theorem recordStatus?_eq_some_iff {tally next : Tally} {status : Status} :
    tally.recordStatus? status = some next ↔
      tally.count status + 1 < 2 ^ 64 ∧
        tally.recordStatus status = next := by
  cases status <;>
    simp only [recordStatus?, recordStatus, count, bind_addWords?_eq_some_iff,
      pure, Option.some.injEq]

theorem merge?_eq_some_iff {tally other next : Tally} :
    tally.merge? other = some next ↔
      (∀ status, tally.count status + other.count status < 2 ^ 64) ∧
        tally.merge other = next := by
  simp only [merge?, merge, bind_addWords?_eq_some_iff, pure,
    Option.some.injEq]
  constructor
  · rintro ⟨first, second, third, fourth, fifth, result⟩
    refine ⟨?_, result⟩
    intro status
    cases status <;> assumption
  · rintro ⟨all, result⟩
    exact ⟨all .compliant, all .notNeeded, all .needsMigration,
      all .partialReview, all .notFound, result⟩

/-- The sums on the way to a total are no greater than the total. -/
theorem total?_eq_some_iff {tally : Tally} {sum : Nat} :
    tally.total? = some sum ↔ tally.total < 2 ^ 64 ∧ tally.total = sum := by
  simp only [total?, total, bind_addWords?_eq_some_iff,
    addWords?_eq_some_iff]
  omega

/-- Two counts that are words of their own may have no total. -/
example : total? ⟨2 ^ 63, 0, 0, 0, 2 ^ 63⟩ = none := by
  decide

theorem actionable?_eq_some_iff {tally : Tally} {sum : Nat} :
    tally.actionable? = some sum ↔
      tally.actionable < 2 ^ 64 ∧ tally.actionable = sum := by
  simp only [actionable?, actionable, bind_addWords?_eq_some_iff,
    addWords?_eq_some_iff]
  omega

/-! ### What the steps add -/

/-- What a step records or merges, as a tally of its own. -/
def Step.amount : Step → Tally
  | .record verdict => empty.record verdict
  | .recordStatus status => empty.recordStatus status
  | .merge other => other

/-- The statuses that are recorded one by one. -/
def recorded : List Step → List Status
  | [] => []
  | .record verdict :: rest => verdict.status :: recorded rest
  | .recordStatus status :: rest => status :: recorded rest
  | .merge _ :: rest => recorded rest

/-- The tallies that are merged. -/
def merged : List Step → List Tally
  | [] => []
  | .merge other :: rest => other :: merged rest
  | _ :: rest => merged rest

/-- How many verdicts are counted in all. -/
def grandTotal (verdicts : List Verdict) (steps : List Step) : Nat :=
  verdicts.length + (recorded steps).length +
    ((merged steps).map total).sum

/-- Every step is a merge. -/
theorem step_eq_merge (tally : Tally) (next : Step) :
    tally.step next = tally.merge next.amount := by
  apply ext_count
  intro status
  cases next <;> simp [step, Step.amount, record]

theorem count_foldl_step (steps : List Step) (tally : Tally)
    (status : Status) :
    (steps.foldl step tally).count status =
      tally.count status + (steps.map (·.amount.count status)).sum := by
  induction steps generalizing tally with
  | nil => simp
  | cons next rest ih =>
      rw [List.foldl_cons, ih, step_eq_merge, count_merge, List.map_cons,
        List.sum_cons, Nat.add_assoc]

theorem collect_eq_foldl_step (verdicts : List Verdict) :
    collect verdicts = (verdicts.map Step.record).foldl step empty := by
  rw [List.foldl_map]
  rfl

theorem collect?_eq_foldlM_step? (verdicts : List Verdict) :
    collect? verdicts = (verdicts.map Step.record).foldlM step? empty := by
  rw [List.foldlM_map]
  rfl

/-- A step in words is exact where what is counted so far and what is added
fit together into a word. -/
theorem step?_of_lt {tally : Tally} {next : Step}
    (fits : tally.total + next.amount.total < 2 ^ 64) :
    tally.step? next = some (tally.step next) := by
  have recording : ∀ status : Status,
      tally.total + (empty.recordStatus status).total < 2 ^ 64 →
        tally.recordStatus? status = some (tally.recordStatus status) := by
    intro status fits
    rw [total_recordStatus, total_empty] at fits
    have part := tally.count_le_total status
    exact recordStatus?_eq_some_iff.mpr ⟨by omega, rfl⟩
  cases next with
  | record verdict => exact recording verdict.status fits
  | recordStatus status => exact recording status fits
  | merge other =>
      refine merge?_eq_some_iff.mpr ⟨?_, rfl⟩
      intro status
      have part := tally.count_le_total status
      have otherPart := other.count_le_total status
      have fits : tally.total + other.total < 2 ^ 64 := fits
      omega

theorem foldlM_step?_of_lt {steps : List Step} {tally : Tally}
    (fits : tally.total + (steps.map (·.amount.total)).sum < 2 ^ 64) :
    steps.foldlM step? tally = some (steps.foldl step tally) := by
  induction steps generalizing tally with
  | nil => rfl
  | cons next rest ih =>
      rw [List.map_cons, List.sum_cons, ← Nat.add_assoc] at fits
      rw [List.foldlM_cons, step?_of_lt (by omega)]
      apply ih
      rwa [step_eq_merge, total_merge]

theorem total_foldl_step (steps : List Step) (tally : Tally) :
    (steps.foldl step tally).total =
      tally.total + (steps.map (·.amount.total)).sum := by
  induction steps generalizing tally with
  | nil => simp
  | cons next rest ih =>
      rw [List.foldl_cons, ih, step_eq_merge, total_merge, List.map_cons,
        List.sum_cons, Nat.add_assoc]

theorem collect?_of_lt {verdicts : List Verdict}
    (fits : (collect verdicts).total < 2 ^ 64) :
    collect? verdicts = some (collect verdicts) := by
  rw [collect_eq_foldl_step, total_foldl_step] at fits
  rw [collect?_eq_foldlM_step?, collect_eq_foldl_step]
  exact foldlM_step?_of_lt fits

theorem run?_of_lt {verdicts : List Verdict} {steps : List Step}
    (fits : (steps.foldl step (collect verdicts)).total < 2 ^ 64) :
    run? verdicts steps = some (steps.foldl step (collect verdicts)) := by
  rw [total_foldl_step] at fits
  have collected : (collect verdicts).total < 2 ^ 64 := by omega
  rw [run?, collect?_of_lt collected]
  exact foldlM_step?_of_lt fits

/-- Steps add the same to every tally. -/
theorem foldl_step_eq_merge (steps : List Step) (tally : Tally) :
    steps.foldl step tally = tally.merge (steps.foldl step empty) := by
  apply ext_count
  intro status
  rw [count_merge, count_foldl_step, count_foldl_step, count_empty,
    Nat.zero_add]

theorem foldl_step_eq_of_perm {steps permuted : List Step}
    (perm : steps.Perm permuted) (tally : Tally) :
    permuted.foldl step tally = steps.foldl step tally := by
  apply ext_count
  intro status
  rw [count_foldl_step, count_foldl_step, (perm.map _).sum_nat]

/-- However its steps are grouped, a plan counts what they count one after
the other. -/
theorem Plan.tally_eq_foldl (plan : Plan) :
    plan.tally = plan.steps.foldl Tally.step empty := by
  induction plan with
  | collect verdicts => exact collect_eq_foldl_step verdicts
  | step before next ih =>
      rw [tally, ih, steps, List.foldl_append]
      rfl
  | merge front back frontIH backIH =>
      rw [tally, frontIH, backIH, steps, List.foldl_append]
      exact (foldl_step_eq_merge back.steps _).symm

/-- A plan is carried out exactly in words if its total fits into one. -/
theorem Plan.tally?_of_lt {plan : Plan} (fits : plan.tally.total < 2 ^ 64) :
    plan.tally? = some plan.tally := by
  induction plan with
  | collect verdicts => exact collect?_of_lt fits
  | step before next ih =>
      rw [tally, step_eq_merge, total_merge] at fits
      rw [tally?, ih (by omega)]
      exact step?_of_lt fits
  | merge front back frontIH backIH =>
      rw [tally, total_merge] at fits
      rw [tally?, frontIH (by omega), backIH (by omega)]
      have joined : front.tally.step? (.merge back.tally) =
          some (front.tally.step (.merge back.tally)) := step?_of_lt fits
      exact joined

theorem sum_count_amount (steps : List Step) (status : Status) :
    (steps.map (·.amount.count status)).sum =
      (recorded steps).count status +
        ((merged steps).map (·.count status)).sum := by
  induction steps with
  | nil => rfl
  | cons next rest ih =>
      rw [List.map_cons, List.sum_cons, ih]
      cases next <;>
        simp [recorded, merged, Step.amount, record, List.count_cons] <;>
        omega

theorem sum_total_amount (steps : List Step) :
    (steps.map (·.amount.total)).sum =
      (recorded steps).length + ((merged steps).map total).sum := by
  induction steps with
  | nil => rfl
  | cons next rest ih =>
      rw [List.map_cons, List.sum_cons, ih]
      cases next <;>
        simp [recorded, merged, Step.amount, record, total_empty] <;>
        omega

theorem total_run (verdicts : List Verdict) (steps : List Step) :
    (collect verdicts).total + (steps.map (·.amount.total)).sum =
      grandTotal verdicts steps := by
  rw [total_collect, sum_total_amount, grandTotal, Nat.add_assoc]

/-- The sums that are made of a tally fit into words, and they fit
together. -/
structure SumsFit (tally : Tally) : Prop where
  total : tally.total? = some tally.total
  actionable : tally.actionable? = some tally.actionable
  sum_counts : (Status.all.map tally.count).sum = tally.total
  compliant_le : tally.compliant ≤ tally.actionable
  actionable_le : tally.actionable ≤ tally.total
  rate : tally.complianceRate? = none ↔ tally.actionable = 0

theorem sumsFit_of_lt {tally : Tally} (fits : tally.total < 2 ^ 64) :
    tally.SumsFit where
  total := total?_eq_some_iff.mpr ⟨fits, rfl⟩
  actionable := by
    have below := tally.actionable_le_total
    exact actionable?_eq_some_iff.mpr ⟨by omega, rfl⟩
  sum_counts := tally.sum_map_count
  compliant_le := by
    rw [Tally.actionable]
    omega
  actionable_le := tally.actionable_le_total
  rate := by
    rw [complianceRate?]
    split
    · next none => simp [none]
    · next some => simp [some]

/-- Collect verdicts, then record and merge.  If all that is counted fits into
a word, no sum overflows after any number of steps, and every count is the
number of verdicts recorded plus what the merged tallies hold.  Any order of
the steps and any plan with the same steps come to the same tally, in words
too. -/
theorem words_count_exactly (verdicts : List Verdict) (steps : List Step)
    (fits : grandTotal verdicts steps < 2 ^ 64) :
    let tally := steps.foldl step (collect verdicts)
    (∀ before, before <+: steps →
      let reached := before.foldl step (collect verdicts)
      run? verdicts before = some reached ∧ reached.SumsFit) ∧
    (∀ status, tally.count status =
      verdicts.countP (·.status = status) + (recorded steps).count status +
        ((merged steps).map (·.count status)).sum) ∧
    (∀ permuted, steps.Perm permuted →
      permuted.foldl step (collect verdicts) = tally ∧
        run? verdicts permuted = some tally) ∧
    (∀ plan : Plan, plan.steps.Perm (verdicts.map .record ++ steps) →
      plan.tally = tally ∧ plan.tally? = some tally) := by
  intro tally
  rw [← total_run, ← total_foldl_step] at fits
  refine ⟨?_, ?_, ?_, ?_⟩
  · rintro before ⟨after, rfl⟩
    intro reached
    have below : reached.total < 2 ^ 64 := by
      rw [List.foldl_append, total_foldl_step] at fits
      exact Nat.lt_of_le_of_lt (Nat.le_add_right _ _) fits
    exact ⟨run?_of_lt below, sumsFit_of_lt below⟩
  · intro status
    rw [count_foldl_step, count_collect, sum_count_amount, Nat.add_assoc]
  · intro permuted perm
    have same := foldl_step_eq_of_perm perm (collect verdicts)
    refine ⟨same, ?_⟩
    rw [run?_of_lt (same ▸ fits), same]
  · intro plan perm
    have same : plan.tally = tally := by
      rw [plan.tally_eq_foldl, ← foldl_step_eq_of_perm perm,
        List.foldl_append, ← collect_eq_foldl_step]
    refine ⟨same, ?_⟩
    rw [Plan.tally?_of_lt (same ▸ fits), same]

/-- Counting up to the greatest word, in two orders and in two parts. -/
theorem words_count_exactly_to_the_limit :
    let verdicts := [Verdict.unknownFileType]
    let lots : Tally := ⟨0, 0, 2 ^ 64 - 3, 0, 0⟩
    let steps : List Step := [.recordStatus .compliant, .merge lots]
    let plan : Plan := .merge (.step (.collect []) (.merge lots))
      (.step (.collect verdicts) (.recordStatus .compliant))
    grandTotal verdicts steps < 2 ^ 64 ∧
      steps.Perm [.merge lots, .recordStatus .compliant] ∧
      plan.steps.Perm (verdicts.map .record ++ steps) ∧
      run? verdicts [.merge lots, .recordStatus .compliant] = plan.tally? := by
  intro verdicts lots steps plan
  have fits : grandTotal verdicts steps < 2 ^ 64 := by decide
  have swapped : steps.Perm [.merge lots, .recordStatus .compliant] :=
    List.Perm.swap _ _ _
  have regrouped : plan.steps.Perm (verdicts.map .record ++ steps) :=
    (List.perm_append_singleton (Step.merge lots)
      [.record .unknownFileType, .recordStatus .compliant]).symm
  obtain ⟨-, -, reordered, planned⟩ := words_count_exactly verdicts steps fits
  exact ⟨fits, swapped, regrouped,
    (reordered _ swapped).2.trans (planned plan regrouped).2.symm⟩

end Tally

end AccessAudit
