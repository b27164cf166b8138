import AccessAudit.CommandLine.Invocation

/-!
# Readings of command lines

What a reading has been told so far changes in few ways: something occurs,
something waits, or what waits gets one more value.  Whatever waits is known on
the level, so an accepted command line is a chain of such steps.
-/

namespace AccessAudit

namespace CommandLine

/-- The name of the option whose occurrences are counted. -/
def countedName : Text := "verbose"

namespace Occurrences

theorem has_append (first second : Occurrences) (name : Text) :
    has (first ++ second) name = (first.has name || second.has name) := by
  simp [has]

theorem has_singleton (name : Text) (values : List Text) (other : Text) :
    has [⟨name, values⟩] other = decide (name = other) := by
  simp [has]

theorem values_append (first second : Occurrences) (name : Text) :
    values (first ++ second) name =
      first.values name ++ second.values name := by
  simp [values]

theorem values_singleton (name : Text) (given : List Text) (other : Text) :
    values [⟨name, given⟩] other = if name = other then given else [] := by
  by_cases same : name = other <;> simp [values, same]

theorem count_append (first second : Occurrences) (name : Text) :
    count (first ++ second) name = first.count name + second.count name := by
  simp [count]

theorem count_singleton (name : Text) (values : List Text) (other : Text) :
    count [⟨name, values⟩] other = if name = other then 1 else 0 := by
  by_cases same : name = other <;> simp [count, same]

end Occurrences

/-- The values with which an occurrence is settled. -/
def OptionSpec.settled (spec : OptionSpec) (values : List Text) : List Text :=
  match spec.kind with
  | .single _ => values
  | .list _ isSplit =>
      if isSplit then values.flatMap (Text.pieces ',') else values
  | _ => []

theorem OptionSpec.settled_nil (spec : OptionSpec) : spec.settled [] = [] := by
  simp only [settled]
  split
  · rfl
  · split <;> rfl
  · rfl

theorem OptionSpec.settled_append (spec : OptionSpec)
    (first second : List Text) :
    spec.settled (first ++ second) =
      spec.settled first ++ spec.settled second := by
  simp only [settled]
  split
  · rfl
  · split
    · exact List.flatMap_append
    · rfl
  · rfl

namespace Reading

/-- All that is given, with what is waiting as it would be settled. -/
def told (reading : Reading) : Occurrences :=
  reading.given ++ match reading.waiting with
    | none => []
    | some (spec, values) => [⟨spec.name, spec.settled values⟩]

variable {reading next : Reading} {spec : OptionSpec} {values : List Text}

theorem eq_of_settleWith
    (settles : reading.settleWith spec values = .ok next) :
    next = { reading with
      given := reading.given ++ [⟨spec.name, spec.settled values⟩] } := by
  obtain ⟨name, letter, kind⟩ := spec
  cases kind with
  | help | version => cases settles
  | switch =>
      simp only [settleWith] at settles
      split at settles
      · cases settles
      · cases settles
        rfl
  | counter =>
      cases settles
      rfl
  | single rule =>
      simp only [settleWith] at settles
      split at settles
      · cases settles
      · split at settles
        · cases settles
        · split at settles
          · cases settles
          · cases settles
            rfl
  | list rule isSplit =>
      simp only [settleWith] at settles
      split at settles
      · cases settles
      · split at settles
        · cases settles
        · cases settles
          rfl

theorem eq_of_settle (settles : reading.settle = .ok next) :
    next = ⟨reading.told, none, false, reading.hasOperand⟩ := by
  rw [settle] at settles
  rw [told]
  cases waiting : reading.waiting with
  | none =>
      rw [waiting] at settles
      cases settles
      simp only [List.append_nil]
  | some pair =>
      rw [waiting] at settles
      exact eq_of_settleWith settles

theorem eq_of_occur (occurs : reading.occur spec values = .ok next) :
    next = ⟨reading.told ++ [⟨spec.name, spec.settled values⟩], none, false,
      reading.hasOperand⟩ := by
  rw [occur] at occurs
  split at occurs
  · cases occurs
  · next settles =>
      rw [eq_of_settleWith occurs, eq_of_settle settles]

theorem eq_of_wait (waits : reading.wait spec values = .ok next) :
    next = ⟨reading.told, some (spec, values), values.isEmpty,
      reading.hasOperand⟩ := by
  rw [wait] at waits
  split at waits
  · cases waits
  · next settles =>
      rw [eq_of_settle settles] at waits
      cases waits
      rfl

/-- What waits is known on the level, and if a value is wanted, it is an
option without one. -/
structure Proper (level : Level) (reading : Reading) : Prop where
  known : ∀ spec values, reading.waiting = some (spec, values) →
    spec ∈ level.options ∨ level.operand = some spec
  wanting : reading.wantsValue = true → ∃ spec ∈ level.options,
    spec.kind.takesValue = true ∧ reading.waiting = some (spec, [])

end Reading

/-- The operand of a level has a name of its own, and is not counted. -/
def Level.NamesOperand (level : Level) : Prop :=
  ∀ operand ∈ level.operand,
    operand.name ≠ countedName ∧
      ∀ spec ∈ level.options, spec.name ≠ operand.name

instance (level : Level) : Decidable level.NamesOperand :=
  inferInstanceAs (Decidable (∀ operand ∈ level.operand, _ ∧ _))

namespace Reading

variable {level : Level} {reading next : Reading} {spec : OptionSpec}
  {values : List Text} {argument name : Text} {value : Option Text}

theorem Proper.start (level : Level) : Proper level {} :=
  ⟨nofun, nofun⟩

theorem Proper.of_occur (occurs : reading.occur spec values = .ok next) :
    next.Proper level := by
  rw [eq_of_occur occurs]
  exact ⟨nofun, nofun⟩

theorem Proper.of_wait (waits : reading.wait spec values = .ok next)
    (known : spec ∈ level.options ∨ level.operand = some spec)
    (wanting : values = [] → spec ∈ level.options ∧
      spec.kind.takesValue = true) :
    next.Proper level := by
  rw [eq_of_wait waits]
  constructor
  · intro other otherValues waiting
    cases waiting
    exact known
  · intro wants
    have none := List.isEmpty_iff.mp wants
    obtain ⟨isOption, takesValue⟩ := wanting none
    subst none
    exact ⟨spec, isOption, takesValue, rfl⟩

theorem Proper.readLong
    (reads : reading.readLong level name value = .ok next) :
    next.Proper level := by
  rw [Reading.readLong] at reads
  split at reads
  · cases reads
  · next spec found =>
      have isOption := List.mem_of_find?_eq_some found
      split at reads
      · split at reads
        · exact .of_occur reads
        · cases reads
      · split at reads
        · next takesValue =>
            exact .of_wait reads (Or.inl isOption)
              fun _ => ⟨isOption, takesValue⟩
        · exact .of_occur reads

theorem Proper.readLetters {letters : Text} (proper : reading.Proper level)
    (reads : reading.readLetters level letters = .ok next) :
    next.Proper level := by
  induction letters generalizing reading with
  | nil =>
      cases reads
      exact proper
  | cons letter rest ih =>
      rw [Reading.readLetters] at reads
      split at reads
      · cases reads
      · next spec found =>
          have isOption := List.mem_of_find?_eq_some found
          split at reads
          · next takesValue =>
              split at reads
              · exact .of_wait reads (Or.inl isOption)
                  fun _ => ⟨isOption, takesValue⟩
              · exact .of_occur reads
              · exact .of_occur reads
          · split at reads
            · cases reads
            · next occurs => exact ih (.of_occur occurs) reads

/-- How an operand is taken. -/
inductive Takes (spec : OptionSpec) (argument : Text) (reading : Reading) :
    Reading → Prop
  /-- It is one more value of what is waiting. -/
  | more {rule isSplit waiting values}
      (isList : spec.kind = .list rule isSplit)
      (isWaiting : reading.waiting = some (waiting, values))
      (sameName : waiting.name = spec.name) :
      Takes spec argument reading
        { reading with waiting := some (spec, values ++ [argument]) }
  /-- It is the first value of a list. -/
  | first {rule isSplit next}
      (isList : spec.kind = .list rule isSplit)
      (other : ∀ waiting values, reading.waiting = some (waiting, values) →
        waiting.name ≠ spec.name)
      (waits : reading.wait spec [argument] = .ok next) :
      Takes spec argument reading next
  /-- It takes the only place. -/
  | only {waited}
      (noList : ∀ rule isSplit, spec.kind ≠ .list rule isSplit)
      (isFree : reading.hasOperand = false)
      (waits : reading.wait spec [argument] = .ok waited) :
      Takes spec argument reading { waited with hasOperand := true }

theorem readOperand_eq_ok_iff {afterSeparator : Bool} :
    reading.readOperand level afterSeparator argument = .ok next ↔
      ∃ spec, level.operand = some spec ∧
        Takes spec argument reading next := by
  rw [Reading.readOperand]
  constructor
  · intro reads
    split at reads
    · cases reads
    · next spec isOperand =>
        refine ⟨spec, isOperand, ?_⟩
        split at reads
        · next isList isWaiting =>
            split at reads
            · next sameName =>
                cases reads
                exact .more isList isWaiting sameName
            · next otherName =>
                apply Takes.first isList _ reads
                intro waiting values same
                rw [isWaiting] at same
                cases same
                exact otherName
        · next isList none =>
            apply Takes.first isList _ reads
            intro waiting values same
            rw [none] at same
            cases same
        · next noList noListAlone =>
            split at reads
            · cases reads
            · next isFree =>
                split at reads
                · cases reads
                · next waits =>
                    cases reads
                    refine .only ?_ (Bool.eq_false_iff.mpr isFree) waits
                    intro rule isSplit isList
                    cases waiting : reading.waiting with
                    | none => exact noListAlone _ _ isList waiting
                    | some pair => exact noList _ _ _ _ isList waiting
  · rintro ⟨spec, isOperand, takes⟩
    simp only [isOperand]
    cases takes with
    | more isList isWaiting sameName => simp [isList, isWaiting, sameName]
    | first isList other waits =>
        simp only [isList]
        cases waiting : reading.waiting with
        | none => exact waits
        | some pair => simp [other pair.1 pair.2 waiting, waits]
    | only noList isFree waits =>
        split
        · next isList _ => exact absurd isList (noList _ _)
        · next isList _ => exact absurd isList (noList _ _)
        · simp [isFree, waits]

/-- What waits under the name of the operand is the operand, and has a
value. -/
theorem Proper.operand_waits (names : level.NamesOperand)
    (proper : reading.Proper level) (isOperand : level.operand = some spec)
    {waiting : OptionSpec}
    (isWaiting : reading.waiting = some (waiting, values))
    (sameName : waiting.name = spec.name) :
    waiting = spec ∧ reading.wantsValue = false := by
  have different := (names spec isOperand).2
  constructor
  · rcases proper.known waiting values isWaiting with isOption | same
    · exact absurd sameName (different waiting isOption)
    · exact (Option.some.inj (isOperand.symm.trans same)).symm
  · rw [Bool.eq_false_iff]
    intro wants
    obtain ⟨other, isOption, _, otherWaits⟩ := proper.wanting wants
    rw [isWaiting] at otherWaits
    cases otherWaits
    exact different waiting isOption sameName

theorem Proper.readOperand {afterSeparator : Bool}
    (names : level.NamesOperand) (proper : reading.Proper level)
    (reads : reading.readOperand level afterSeparator argument = .ok next) :
    next.Proper level := by
  obtain ⟨operand, isOperand, takes⟩ := readOperand_eq_ok_iff.mp reads
  have waits : ∀ {other : Reading},
      reading.wait operand [argument] = .ok other → other.Proper level :=
    fun waits => .of_wait waits (Or.inr isOperand) nofun
  cases takes with
  | more _ isWaiting sameName =>
      constructor
      · intro other otherValues same
        cases same
        exact Or.inr isOperand
      · intro wants
        have noValue :=
          (proper.operand_waits names isOperand isWaiting sameName).2
        cases noValue.symm.trans wants
  | first _ _ waited => exact waits waited
  | only _ _ waited => exact ⟨(waits waited).known, (waits waited).wanting⟩

theorem Proper.readPlain (names : level.NamesOperand)
    (proper : reading.Proper level)
    (reads : reading.readPlain level argument = .ok next) :
    next.Proper level := by
  rw [Reading.readPlain] at reads
  split at reads
  · next spec values isWaiting _ =>
      cases reads
      constructor
      · intro other otherValues same
        cases same
        exact proper.known spec values isWaiting
      · intro wants
        cases wants
  · exact proper.readOperand names reads

/-- Whoever waits for a value cannot be settled. -/
theorem wantsValue_of_settle (proper : reading.Proper level)
    (settles : reading.settle = .ok next) : reading.wantsValue = false := by
  rw [Bool.eq_false_iff]
  intro wants
  obtain ⟨spec, _, takesValue, waiting⟩ := proper.wanting wants
  obtain ⟨name, letter, kind⟩ := spec
  rw [settle, waiting] at settles
  cases kind with
  | help | version | switch | counter => cases takesValue
  | single rule => cases settles
  | list rule isSplit => cases settles

theorem readPlain_of_not_wanting (noValue : reading.wantsValue = false) :
    reading.readPlain level argument =
      reading.readOperand level false argument := by
  rw [Reading.readPlain, noValue]
  cases reading.waiting <;> rfl

/-! ## A level -/

/-- Read an argument that is no command. -/
def readArgument (level : Level) (reading : Reading) (afterSeparator : Bool)
    (argument : Text) : Except UsageProblem Reading :=
  if afterSeparator then reading.readOperand level true argument
  else
    match Form.ofArgument argument with
    | .separator => .ok reading
    | .long name value => reading.readLong level name value
    | .letters letters => reading.readLetters level letters
    | .plain => reading.readPlain level argument

theorem readLevel_cons (level : Level) (reading : Reading)
    (afterSeparator : Bool) (argument : Text) (rest : List Text) :
    readLevel level reading afterSeparator (argument :: rest) =
      if !afterSeparator && !reading.wantsValue &&
          level.commands.contains argument then
        .ok (reading, some (argument, rest))
      else
        match reading.readArgument level afterSeparator argument with
        | .error problem => .error problem
        | .ok next =>
            readLevel level next
              (afterSeparator || Form.ofArgument argument = .separator)
              rest := by
  rw [readLevel, readArgument]
  cases afterSeparator with
  | true => rfl
  | false =>
      simp only [Bool.not_false, Bool.true_and, Bool.false_eq_true, if_false,
        Bool.false_or]
      split
      · rfl
      · cases Form.ofArgument argument with
        | separator => rfl
        | long name value => cases reading.readLong level name value <;> rfl
        | letters letters => cases reading.readLetters level letters <;> rfl
        | plain => cases reading.readPlain level argument <;> rfl

theorem Proper.readArgument {afterSeparator : Bool}
    (names : level.NamesOperand) (proper : reading.Proper level)
    (reads : reading.readArgument level afterSeparator argument =
      .ok next) :
    next.Proper level := by
  rw [Reading.readArgument] at reads
  split at reads
  · exact proper.readOperand names reads
  · split at reads
    · cases reads
      exact proper
    · exact .readLong reads
    · exact proper.readLetters reads
    · exact proper.readPlain names reads

end Reading

def separator : Text := "--"

theorem ofArgument_eq_separator_iff (argument : Text) :
    Form.ofArgument argument = .separator ↔ argument = separator := by
  constructor
  · intro form
    rw [Form.ofArgument.eq_def] at form
    split at form
    · rfl
    · cases form
    · cases form
    · cases form
  · rintro rfl
    rfl

theorem Level.read_eq_ok_iff {level : Level} {arguments : List Text}
    {given : Occurrences} :
    level.read arguments = .ok given ↔
      ∃ reading rest settled,
        CommandLine.readLevel level {} false arguments =
          .ok (reading, rest) ∧
        reading.settle = .ok settled ∧
        level.violation? settled.given = none ∧ settled.given = given := by
  rw [read]
  constructor
  · intro reads
    split at reads
    · cases reads
    · next reading rest readsLevel =>
        split at reads
        · cases reads
        · next settled settles =>
            split at reads
            · cases reads
            · next noViolation =>
                cases reads
                exact ⟨reading, rest, settled, readsLevel, settles,
                  noViolation, rfl⟩
  · rintro ⟨reading, rest, settled, readsLevel, settles, noViolation, rfl⟩
    simp [readsLevel, settles, noViolation]

end CommandLine

open CommandLine

theorem Invocation.parse_eq_ok_iff {arguments : List Text}
    {invocation : Invocation} :
    parse arguments = .ok invocation ↔
      ∃ reading name rest level command given settled,
        readLevel programLevel {} false arguments =
          .ok (reading, some (name, rest)) ∧
        commandLevel? name = some (level, command) ∧
        level.read rest = .ok given ∧ reading.settle = .ok settled ∧
        invocation = ⟨globalsOf settled.given given, command given⟩ := by
  rw [parse]
  constructor
  · intro parses
    split at parses
    · cases parses
    · split at parses
      · cases parses
      · split at parses <;> cases parses
    · next reading name rest readsLevel =>
        split at parses
        · cases parses
        · next level command isCommand =>
            split at parses
            · cases parses
            · next given reads =>
                split at parses
                · cases parses
                · next settled settles =>
                    cases parses
                    exact ⟨reading, name, rest, level, command, given,
                      settled, readsLevel, isCommand, reads, settles, rfl⟩
  · rintro ⟨reading, name, rest, level, command, given, settled, readsLevel,
      isCommand, reads, settles, rfl⟩
    simp [readsLevel, isCommand, reads, settles]

end AccessAudit
