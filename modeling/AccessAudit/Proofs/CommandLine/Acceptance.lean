import AccessAudit.Proofs.CommandLine.Reading

/-!
# What a level allows

Occurrences fit a level when no help is asked for, only a counter or a list is
given twice, and each value passes the rule of its option.  A ready reading
can be settled exactly when all that it was told fits, and it goes on to a
ready reading.
-/

namespace AccessAudit

namespace CommandLine

/-- The options of a level and its operand. -/
def Level.specs (level : Level) : List OptionSpec :=
  level.options ++ level.operand.toList

/-- All values pass a rule. -/
def ValueRule.Passes (rule : ValueRule) (values : List Text) : Prop :=
  ∀ value ∈ values, rule.problem? value = none

theorem ValueRule.passes_append_iff {rule : ValueRule}
    {first second : List Text} :
    rule.Passes (first ++ second) ↔
      rule.Passes first ∧ rule.Passes second :=
  List.forall_mem_append

/-- The check of values comes to its end exactly when all of them pass. -/
theorem ValueRule.exists_checked_iff {α : Type} (rule : ValueRule)
    (values : List Text) (checked : α) :
    (∃ next, (match values.findSome? rule.problem? with
        | some problem => .error problem
        | none => .ok checked : Except UsageProblem α) = .ok next) ↔
      rule.Passes values := by
  rw [Passes, ← List.findSome?_eq_none_iff]
  cases values.findSome? rule.problem? <;> simp

/-- Among the occurrences, those of one option may stand together. -/
def OptionSpec.Fits (spec : OptionSpec) (given : Occurrences) : Prop :=
  match spec.kind with
  | .help | .version => given.has spec.name = false
  | .switch => given.count spec.name ≤ 1
  | .counter => True
  | .single rule =>
      given.count spec.name ≤ 1 ∧ rule.Passes (given.values spec.name)
  | .list rule _ => rule.Passes (given.values spec.name)

/-- The occurrences of every option may stand together. -/
def Level.Fits (level : Level) (given : Occurrences) : Prop :=
  ∀ spec ∈ level.specs, spec.Fits given

/-- The occurrences may end a level: they fit, none excludes another, and
nothing is missing. -/
structure Level.Allows (level : Level) (given : Occurrences) : Prop where
  fits : level.Fits given
  apart : ∀ one other, (one, other) ∈ level.conflicts →
    given.has one = true → given.has other = false
  complete : level.requiresOperand = true →
    ∀ operand ∈ level.operand, given.has operand.name = true

/-- Options and operand of a level differ in their names. -/
def Level.Distinct (level : Level) : Prop :=
  ∀ spec ∈ level.specs, ∀ other ∈ level.specs,
    other.name = spec.name → other = spec

instance (level : Level) : Decidable level.Distinct :=
  inferInstanceAs (Decidable (∀ spec ∈ level.specs, _))

theorem Level.violation?_eq_none_iff {level : Level} {given : Occurrences}
    (fits : level.Fits given) :
    level.violation? given = none ↔ level.Allows given := by
  have conflict : (level.conflicts.any fun pair =>
      given.has pair.1 && given.has pair.2) = false ↔
      ∀ one other, (one, other) ∈ level.conflicts →
        given.has one = true → given.has other = false := by
    simp [List.any_eq_false]
  rw [violation?]
  constructor
  · intro noViolation
    split at noViolation
    · cases noViolation
    · next noConflict =>
        refine ⟨fits, conflict.mp (Bool.eq_false_iff.mpr noConflict), ?_⟩
        intro required operand isOperand
        rw [Option.mem_def.mp isOperand] at noViolation
        simpa [required] using noViolation
  · rintro ⟨-, apart, complete⟩
    refine (if_neg (Bool.eq_false_iff.mp (conflict.mpr apart))).trans ?_
    split
    · next operand isOperand =>
        have noneMissing : (level.requiresOperand &&
            !given.has operand.name) = false := by
          cases required : level.requiresOperand with
          | false => rfl
          | true => simp [complete required operand isOperand]
        rw [noneMissing, if_neg Bool.false_ne_true]
    · rfl

/-! ## One more occurrence -/

variable {level : Level} {spec : OptionSpec} {name : Text}
  {values : List Text} {given : Occurrences}

theorem Level.mem_specs_of_option (isOption : spec ∈ level.options) :
    spec ∈ level.specs :=
  List.mem_append_left _ isOption

theorem Level.mem_specs_of_operand (isOperand : level.operand = some spec) :
    spec ∈ level.specs :=
  List.mem_append_right _ (by simp [isOperand])

theorem OptionSpec.fits_append_of_ne (different : name ≠ spec.name) :
    spec.Fits (given ++ [⟨name, values⟩]) ↔ spec.Fits given := by
  simp only [Fits, Occurrences.has_append, Occurrences.has_singleton,
    Occurrences.count_append, Occurrences.count_singleton,
    Occurrences.values_append, Occurrences.values_singleton, different,
    decide_false, Bool.or_false, if_false, Nat.add_zero, List.append_nil]

theorem OptionSpec.Fits.of_append {later : Occurrences}
    (fits : spec.Fits (given ++ later)) : spec.Fits given := by
  obtain ⟨name, letter, kind⟩ := spec
  cases kind with
  | help | version =>
      exact (Bool.or_eq_false_iff.mp
        ((Occurrences.has_append given later name).symm.trans fits)).1
  | switch =>
      have counted := Occurrences.count_append given later name
      simp only [Fits] at fits ⊢
      omega
  | counter => trivial
  | single rule =>
      have counted := Occurrences.count_append given later name
      simp only [Fits, Occurrences.values_append,
        ValueRule.passes_append_iff] at fits ⊢
      exact ⟨by omega, fits.2.1⟩
  | list rule isSplit =>
      simp only [Fits, Occurrences.values_append,
        ValueRule.passes_append_iff] at fits ⊢
      exact fits.1

theorem Level.Fits.of_append {later : Occurrences}
    (fits : level.Fits (given ++ later)) : level.Fits given :=
  fun spec isSpec => (fits spec isSpec).of_append

theorem Level.Fits.nil (level : Level) : level.Fits [] := by
  rintro ⟨name, letter, kind⟩ -
  cases kind <;> simp [OptionSpec.Fits, ValueRule.Passes, Occurrences.has,
    Occurrences.count, Occurrences.values]

theorem Level.Distinct.fits_append_iff (distinct : level.Distinct)
    (isSpec : spec ∈ level.specs) (fits : level.Fits given) :
    level.Fits (given ++ [⟨spec.name, values⟩]) ↔
      spec.Fits (given ++ [⟨spec.name, values⟩]) := by
  constructor
  · intro fitsNow
    exact fitsNow spec isSpec
  · intro fitsNow other isOther
    by_cases same : other.name = spec.name
    · rw [distinct spec isSpec other isOther same]
      exact fitsNow
    · exact (OptionSpec.fits_append_of_ne (Ne.symm same)).mpr
        (fits other isOther)

theorem Occurrences.has_eq_false_iff_count :
    given.has name = false ↔ given.count name = 0 := by
  simp [has, count, List.countP_eq_zero]

/-- What has a single value is not given before. -/
theorem OptionSpec.Fits.absent {rule : ValueRule}
    (fits : spec.Fits (given ++ [⟨spec.name, values⟩]))
    (isSingle : spec.kind = .single rule) : given.has spec.name = false := by
  rw [Fits, isSingle] at fits
  have once := fits.1
  rw [Occurrences.count_append, Occurrences.count_singleton, if_pos rfl]
    at once
  rw [Occurrences.has_eq_false_iff_count]
  omega

namespace Reading

variable {reading next : Reading}

/-- An occurrence is settled exactly when it fits those before it. -/
theorem exists_settleWith_iff (fits : spec.Fits reading.given)
    (valued : spec.kind.takesValue = true → values ≠ []) :
    (∃ next, reading.settleWith spec values = .ok next) ↔
      spec.Fits
        (reading.given ++ [⟨spec.name, spec.settled values⟩]) := by
  obtain ⟨name, letter, kind⟩ := spec
  have absent : reading.given.has name = false ↔
      reading.given.count name + 1 ≤ 1 := by
    rw [Occurrences.has_eq_false_iff_count]
    omega
  -- In the kinds with values their check comes last, and is all that is
  -- left when the other checks are decided.
  cases kind with
  | help | version =>
      simp [settleWith, OptionSpec.Fits, Occurrences.has_append,
        Occurrences.has_singleton]
  | counter => simp [settleWith, OptionSpec.Fits]
  | switch =>
      simp only [settleWith, OptionSpec.Fits, Occurrences.count_append,
        Occurrences.count_singleton, if_true, ← absent]
      cases reading.given.has name <;> simp
  | single rule =>
      have nonempty : values.isEmpty = false := by simpa using valued rfl
      simp only [settleWith, OptionSpec.Fits, Occurrences.count_append,
        Occurrences.count_singleton, Occurrences.values_append,
        Occurrences.values_singleton, ValueRule.passes_append_iff,
        OptionSpec.settled, if_true, nonempty, ← absent, fits.2, true_and,
        Bool.false_eq_true, if_false]
      cases reading.given.has name with
      | true => simp
      | false =>
          simp only [Bool.false_eq_true, if_false, true_and]
          exact rule.exists_checked_iff values _
  | list rule isSplit =>
      have nonempty : values.isEmpty = false := by simpa using valued rfl
      have passed : rule.Passes (reading.given.values name) := fits
      simp only [settleWith, OptionSpec.Fits, Occurrences.values_append,
        Occurrences.values_singleton, ValueRule.passes_append_iff, passed,
        nonempty, if_true, true_and, Bool.false_eq_true, if_false]
      exact rule.exists_checked_iff _ _

/-- A reading that goes on: what is settled fits, and what waits has a
value.  The place of the operand is taken only by an operand. -/
structure Ready (level : Level) (reading : Reading) : Prop where
  proper : reading.Proper level
  fits : level.Fits reading.given
  valued : ∀ spec values, reading.waiting = some (spec, values) →
    values ≠ []
  operand : reading.hasOperand = true →
    ∃ operand ∈ level.operand, reading.told.has operand.name = true

theorem Ready.start (level : Level) : Ready level {} :=
  ⟨.start level, .nil level, nofun, nofun⟩

theorem Ready.wantsValue (ready : reading.Ready level) :
    reading.wantsValue = false := by
  rw [Bool.eq_false_iff]
  intro wants
  obtain ⟨spec, _, _, waiting⟩ := ready.proper.wanting wants
  exact ready.valued spec [] waiting rfl

theorem Ready.waiting_mem_specs (ready : reading.Ready level)
    (isWaiting : reading.waiting = some (spec, values)) :
    spec ∈ level.specs :=
  (ready.proper.known spec values isWaiting).elim
    Level.mem_specs_of_option Level.mem_specs_of_operand

/-- A ready reading can be settled exactly when all it was told fits. -/
theorem Ready.exists_settle_iff (distinct : level.Distinct)
    (ready : reading.Ready level) :
    (∃ next, reading.settle = .ok next) ↔ level.Fits reading.told := by
  rw [settle, told]
  cases isWaiting : reading.waiting with
  | none => simp [ready.fits]
  | some pair =>
      obtain ⟨spec, values⟩ := pair
      have isSpec := ready.waiting_mem_specs isWaiting
      rw [distinct.fits_append_iff isSpec ready.fits]
      exact exists_settleWith_iff (ready.fits spec isSpec)
        fun _ => ready.valued spec values isWaiting

theorem Ready.exists_occur_iff (distinct : level.Distinct)
    (ready : reading.Ready level) (isSpec : spec ∈ level.specs)
    (valued : spec.kind.takesValue = true → values ≠ []) :
    (∃ next, reading.occur spec values = .ok next) ↔
      level.Fits (reading.told ++ [⟨spec.name, spec.settled values⟩]) := by
  have settles := ready.exists_settle_iff distinct
  rw [occur]
  cases settled : reading.settle with
  | error problem =>
      simp only [settled, reduceCtorEq, exists_false, false_iff] at settles
      simp only [reduceCtorEq, exists_false, false_iff]
      exact fun fits => settles fits.of_append
  | ok middle =>
      have fits := settles.mp ⟨middle, settled⟩
      rw [distinct.fits_append_iff isSpec fits, eq_of_settle settled]
      exact exists_settleWith_iff (fits spec isSpec) valued

theorem Ready.exists_wait_iff (distinct : level.Distinct)
    (ready : reading.Ready level) (spec : OptionSpec)
    (values : List Text) :
    (∃ next, reading.wait spec values = .ok next) ↔
      level.Fits reading.told := by
  rw [← ready.exists_settle_iff distinct, wait]
  cases reading.settle <;> simp

/-- The reading has become a ready one that was told more. -/
structure Reaches (level : Level) (reading : Reading) (more : Occurrences)
    (next : Reading) : Prop where
  ready : next.Ready level
  told : next.told = reading.told ++ more

theorem Ready.has_operand (ready : reading.Ready level)
    (taken : reading.hasOperand = true) (more : Occurrences) :
    ∃ operand ∈ level.operand,
      Occurrences.has (reading.told ++ more) operand.name = true := by
  obtain ⟨operand, isOperand, has⟩ := ready.operand taken
  refine ⟨operand, isOperand, ?_⟩
  rw [Occurrences.has_append, has, Bool.true_or]

theorem Ready.reaches_of_occur (distinct : level.Distinct)
    (ready : reading.Ready level) (isSpec : spec ∈ level.specs)
    (valued : spec.kind.takesValue = true → values ≠ [])
    (occurs : reading.occur spec values = .ok next) :
    reading.Reaches level [⟨spec.name, spec.settled values⟩] next := by
  have fits :=
    (ready.exists_occur_iff distinct isSpec valued).mp ⟨next, occurs⟩
  have proper : next.Proper level := .of_occur occurs
  rw [eq_of_occur occurs] at proper ⊢
  have told : Reading.told ⟨reading.told ++
      [⟨spec.name, spec.settled values⟩], none, false, reading.hasOperand⟩ =
      reading.told ++ [⟨spec.name, spec.settled values⟩] :=
    List.append_nil _
  refine ⟨⟨proper, fits, nofun, fun taken => ?_⟩, told⟩
  rw [told]
  exact ready.has_operand taken _

theorem Ready.reaches_of_wait (distinct : level.Distinct)
    (ready : reading.Ready level)
    (known : spec ∈ level.options ∨ level.operand = some spec)
    (nonempty : values ≠ []) (waits : reading.wait spec values = .ok next) :
    reading.Reaches level [⟨spec.name, spec.settled values⟩] next := by
  have fits := (ready.exists_wait_iff distinct spec values).mp ⟨next, waits⟩
  have proper : next.Proper level :=
    .of_wait waits known fun empty => absurd empty nonempty
  rw [eq_of_wait waits] at proper ⊢
  refine ⟨⟨proper, fits, ?_, fun taken => ready.has_operand taken _⟩, rfl⟩
  intro other otherValues isWaiting
  cases isWaiting
  exact nonempty

/-- A ready reading takes the place of the operand, which then is taken. -/
theorem Reaches.takePlace
    (reaches : reading.Reaches level [⟨spec.name, values⟩] next)
    (isOperand : level.operand = some spec) :
    reading.Reaches level [⟨spec.name, values⟩]
      { next with hasOperand := true } := by
  obtain ⟨⟨proper, fits, valued, -⟩, told⟩ := reaches
  refine ⟨⟨⟨proper.known, proper.wanting⟩, fits, valued, fun _ => ?_⟩, told⟩
  refine ⟨spec, isOperand, ?_⟩
  change next.told.has spec.name = true
  rw [told, Occurrences.has_append, Occurrences.has_singleton]
  simp

end Reading

end CommandLine

end AccessAudit
