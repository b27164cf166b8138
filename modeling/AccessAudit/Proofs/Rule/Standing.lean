import AccessAudit.Proofs.Rule.Trace

/-!
# How every rule of a table stood

The fallback of a table is a rule that always applies and comes last.  Seen so,
every step of a trace is settled by whether its rule applies and whether one
before it does.  The first rule that applies decides, and the trace and the
decision agree on which that is.
-/

namespace AccessAudit

/-- How a rule stood, by whether an earlier rule has applied and whether it
applies itself. -/
def Standing.of (decided applies : Bool) : Standing :=
  if !applies then .inapplicable
  else if decided then .superseded
  else .decisive

namespace Standing

variable {decided applies : Bool}

theorem of_eq_inapplicable_iff :
    of decided applies = .inapplicable ↔ applies = false := by
  cases decided <;> cases applies <;> decide

theorem of_eq_superseded_iff :
    of decided applies = .superseded ↔ decided = true ∧ applies = true := by
  cases decided <;> cases applies <;> decide

theorem of_eq_decisive_iff :
    of decided applies = .decisive ↔ decided = false ∧ applies = true := by
  cases decided <;> cases applies <;> decide

end Standing

namespace Rule

variable {Category : Type}

/-- The rule, made to apply to everything. -/
def always (rule : Rule Category) : Rule Category :=
  { rule with applies := fun _ _ => true }

/-- The step of a rule, where `decided` tells whether an earlier rule has
applied. -/
def step (rule : Rule Category) (category : Category) (features : Features)
    (decided : Bool) : TraceStep :=
  ⟨rule.name, .of decided (rule.applies category features),
    rule.outcome.status⟩

end Rule

namespace RuleTable

variable {Category : Type}

/-- The rules, with the fallback as a last rule that always applies. -/
def cascade (table : RuleTable Category) : List (Rule Category) :=
  table.rules ++ [table.fallback.always]

/-- The position of the first rule that applies.  The fallback stands behind
all others. -/
def decisivePosition (table : RuleTable Category) (category : Category)
    (features : Features) : Nat :=
  table.cascade.findIdx (·.applies category features)

/-- What a trace tells of a table, where the rule at `position` has decided.
A position counts the rules in order, and the fallback after them. -/
structure Recounts (table : RuleTable Category) (category : Category)
    (features : Features) (steps : List TraceStep) (position : Nat) :
    Prop where
  inOrder : steps.map (fun step => (step.rule, step.outcome)) =
    (table.rules ++ [table.fallback]).map fun rule =>
      (rule.name, rule.outcome.status)
  selected : (table.rules ++ [table.fallback])[position]? =
    some (table.decisiveRule category features)
  evaluated : steps[position]? = some (table.evaluate category features).step
  decisive_iff : ∀ index step, steps[index]? = some step →
    (step.standing = .decisive ↔ index = position)
  before : ∀ index step, steps[index]? = some step →
    index < position → step.standing = .inapplicable
  inapplicable_iff : ∀ (index : Nat) rule (step : TraceStep),
    table.rules[index]? = some rule → steps[index]? = some step →
      (step.standing = .inapplicable ↔
        rule.applies category features = false)
  after : ∀ (index : Nat) rule (step : TraceStep),
    table.rules[index]? = some rule → steps[index]? = some step →
      position < index → rule.applies category features = true →
        step.standing = .superseded
  fallback : ∀ step, steps[table.rules.length]? = some step →
    position ≠ table.rules.length → step.standing = .superseded

variable {category : Category} {features : Features}

/-- Every step is that of its rule, after the rules in front of it. -/
theorem getElem?_traceFrom (category : Category) (features : Features)
    (fallback : Rule Category) (decided : Bool)
    (rules : List (Rule Category)) (index : Nat) :
    let cascade := rules ++ [fallback.always]
    (traceFrom fallback category features decided rules)[index]? =
      cascade[index]?.map fun rule =>
        rule.step category features (decided ||
          (cascade.take index).any (·.applies category features)) := by
  simp only
  induction rules generalizing decided index with
  | nil =>
      cases index with
      | zero => simp [traceFrom, Rule.step, Rule.always, Standing.of]
      | succ index => simp [traceFrom]
  | cons rule rest ih =>
      cases index with
      | zero => simp [traceFrom, Rule.step, Standing.of]
      | succ index =>
          rw [traceFrom, List.getElem?_cons_succ, ih]
          simp [Bool.or_assoc]

theorem decisivePosition_lt (table : RuleTable Category)
    (category : Category) (features : Features) :
    table.decisivePosition category features < table.cascade.length := by
  apply List.findIdx_lt_length_of_exists
  exact ⟨table.fallback.always, by simp [cascade], rfl⟩

/-- A rule has applied before an index exactly if the decisive one has. -/
theorem any_take_cascade (table : RuleTable Category) (index : Nat) :
    (table.cascade.take index).any (·.applies category features) =
      decide (table.decisivePosition category features < index) := by
  have bound := table.decisivePosition_lt category features
  rw [Bool.eq_iff_iff, decide_eq_true_eq, List.any_eq_true,
    ← List.findIdx_lt_length, List.findIdx_take, List.length_take]
  simp only [decisivePosition] at bound ⊢
  omega

/-- Every step of a trace is settled by its rule and the decisive
position. -/
theorem getElem?_trace (table : RuleTable Category) (index : Nat) :
    (table.trace category features)[index]? =
      table.cascade[index]?.map fun rule =>
        rule.step category features
          (decide (table.decisivePosition category features < index)) := by
  have steps := getElem?_traceFrom category features table.fallback false
    table.rules index
  simp only [Bool.false_or] at steps
  rw [← any_take_cascade]
  exact steps

theorem applies_eq_false_of_lt {table : RuleTable Category} {index : Nat}
    {rule : Rule Category} (found : table.cascade[index]? = some rule)
    (early : index < table.decisivePosition category features) :
    rule.applies category features = false := by
  obtain ⟨_, rfl⟩ := List.getElem?_eq_some_iff.mp found
  simpa using List.not_of_lt_findIdx early

theorem applies_of_decisivePosition {table : RuleTable Category}
    {rule : Rule Category}
    (found : table.cascade[table.decisivePosition category features]? =
      some rule) :
    rule.applies category features = true := by
  obtain ⟨bound, rfl⟩ := List.getElem?_eq_some_iff.mp found
  exact @List.findIdx_getElem _
    (fun rule : Rule Category => rule.applies category features) _ bound

/-- The rule that decides stands at the decisive position. -/
theorem getElem?_decisivePosition (table : RuleTable Category) :
    (table.rules ++ [table.fallback])[
        table.decisivePosition category features]? =
      some (table.decisiveRule category features) := by
  simp only [decisivePosition, cascade, decisiveRule]
  induction table.rules with
  | nil => simp [Rule.always, List.findIdx_cons]
  | cons rule rest ih =>
      cases applies : rule.applies category features with
      | true => simp [List.findIdx_cons, applies]
      | false => simpa [List.findIdx_cons, applies] using ih

theorem map_trace (table : RuleTable Category) (category : Category)
    (features : Features) :
    (table.trace category features).map
        (fun step => (step.rule, step.outcome)) =
      (table.rules ++ [table.fallback]).map fun rule =>
        (rule.name, rule.outcome.status) := by
  have sameNames : (table.rules ++ [table.fallback]).map
      (fun rule => (rule.name, rule.outcome.status)) =
        table.cascade.map fun rule => (rule.name, rule.outcome.status) := by
    simp [cascade, Rule.always]
  rw [sameNames]
  apply List.ext_getElem?
  intro index
  rw [List.getElem?_map, List.getElem?_map, getElem?_trace, Option.map_map]
  rfl

/-- A step is decisive exactly at the decisive position. -/
theorem standing_eq_decisive_iff {table : RuleTable Category} {index : Nat}
    {step : TraceStep}
    (told : (table.trace category features)[index]? = some step) :
    step.standing = .decisive ↔
      index = table.decisivePosition category features := by
  rw [getElem?_trace, Option.map_eq_some_iff] at told
  obtain ⟨rule, found, rfl⟩ := told
  simp only [Rule.step, Standing.of_eq_decisive_iff, decide_eq_false_iff_not,
    Nat.not_lt]
  constructor
  · rintro ⟨notLate, applies⟩
    apply Nat.le_antisymm notLate
    apply Nat.le_of_not_lt
    intro early
    rw [applies_eq_false_of_lt found early] at applies
    cases applies
  · rintro rfl
    exact ⟨Nat.le_refl _, applies_of_decisivePosition found⟩

/-- The step of a rule of the table, at the position of the rule. -/
theorem step_eq_of_rule {table : RuleTable Category} {index : Nat}
    {rule : Rule Category} {step : TraceStep}
    (isRule : table.rules[index]? = some rule)
    (told : (table.trace category features)[index]? = some step) :
    step = rule.step category features
      (decide (table.decisivePosition category features < index)) := by
  obtain ⟨bound, _⟩ := List.getElem?_eq_some_iff.mp isRule
  have found : table.cascade[index]? = some rule := by
    rw [cascade, List.getElem?_append_left bound, isRule]
  rw [getElem?_trace, found, Option.map_some, Option.some.injEq] at told
  exact told.symm

/-- At the decisive position a trace has the step of the decision. -/
theorem getElem?_trace_decisivePosition (table : RuleTable Category) :
    (table.trace category features)[
        table.decisivePosition category features]? =
      some (table.evaluate category features).step := by
  have named := congrArg (·[table.decisivePosition category features]?)
    (table.map_trace category features)
  simp only [List.getElem?_map, getElem?_decisivePosition, Option.map_some,
    Option.map_eq_some_iff, Prod.mk.injEq] at named
  obtain ⟨step, told, name, outcome⟩ := named
  have standing := (standing_eq_decisive_iff told).mpr rfl
  rw [told, Option.some.injEq]
  cases step with
  | mk rule standing outcome => simp_all [evaluate, Decision.step]

end RuleTable

/-- The trace of a table has one step for every rule in order and one for the
fallback, and exactly one of them is decisive: that of the rule which the
decision names.  No rule before it applies, and those that apply after it are
superseded. -/
theorem trace_recounts {Category : Type} (table : RuleTable Category)
    (category : Category) (features : Features) :
    ∃ position, table.Recounts category features
      (table.trace category features) position := by
  refine ⟨table.decisivePosition category features, ?_⟩
  constructor
  · exact table.map_trace category features
  · exact table.getElem?_decisivePosition
  · exact table.getElem?_trace_decisivePosition
  · intro index step told
    exact RuleTable.standing_eq_decisive_iff told
  · intro index step told early
    rw [RuleTable.getElem?_trace, Option.map_eq_some_iff] at told
    obtain ⟨rule, found, rfl⟩ := told
    exact Standing.of_eq_inapplicable_iff.mpr
      (RuleTable.applies_eq_false_of_lt found early)
  · intro index rule step isRule told
    rw [RuleTable.step_eq_of_rule isRule told]
    exact Standing.of_eq_inapplicable_iff
  · intro index rule step isRule told late applies
    rw [RuleTable.step_eq_of_rule isRule told]
    exact Standing.of_eq_superseded_iff.mpr ⟨decide_eq_true late, applies⟩
  · intro step told different
    have bound := table.decisivePosition_lt category features
    have closing : table.cascade[table.rules.length]? =
        some table.fallback.always := by
      simp [RuleTable.cascade]
    rw [RuleTable.getElem?_trace, closing, Option.map_some,
      Option.some.injEq] at told
    subst step
    have late : table.decisivePosition category features <
        table.rules.length := by
      simp only [RuleTable.cascade, List.length_append,
        List.length_singleton] at bound
      omega
    exact Standing.of_eq_superseded_iff.mpr ⟨decide_eq_true late, rfl⟩

end AccessAudit
