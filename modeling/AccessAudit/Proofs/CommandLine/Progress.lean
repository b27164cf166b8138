import AccessAudit.Proofs.CommandLine.Grammar

/-!
# Reading a line

Every part of a line makes a reading advance: it was told what the part gives,
and it goes on with what follows.  So all readings of a line that come to its
end were told the same, and there is one whenever the occurrences fit.
-/

namespace AccessAudit

namespace CommandLine

variable {level : Level} {spec : OptionSpec} {values rest : List Text}
  {argument name value : Text} {letter : Char}

namespace Reading

variable {reading next final : Reading} {more further : Occurrences}
  {α : Type} {outcome : Except UsageProblem α}
  {go goOn : Reading → Except UsageProblem α}

theorem Reaches.refl (ready : reading.Ready level) :
    reading.Reaches level [] reading :=
  ⟨ready, (List.append_nil _).symm⟩

theorem Reaches.trans (first : reading.Reaches level more next)
    (second : next.Reaches level further final) :
    reading.Reaches level (more ++ further) final :=
  ⟨second.ready, by rw [second.told, first.told, List.append_assoc]⟩

/-- An outcome is that of going on from a reading that was told more, which
is reached when what it is told fits. -/
structure Advances (level : Level) (reading : Reading) (more : Occurrences)
    (outcome : Except UsageProblem α)
    (go : Reading → Except UsageProblem α) : Prop where
  determined : ∀ answer, outcome = .ok answer →
    ∃ next, reading.Reaches level more next ∧ go next = .ok answer
  possible : level.Fits (reading.told ++ more) →
    ∃ next, reading.Reaches level more next ∧ outcome = go next

theorem Advances.refl (go : Reading → Except UsageProblem α)
    (ready : reading.Ready level) :
    reading.Advances level [] (go reading) go :=
  ⟨fun _ goes => ⟨reading, .refl ready, goes⟩,
    fun _ => ⟨reading, .refl ready, rfl⟩⟩

theorem Advances.trans (first : reading.Advances level more outcome go)
    (second : ∀ next, reading.Reaches level more next →
      next.Advances level further (go next) goOn) :
    reading.Advances level (more ++ further) outcome goOn := by
  constructor
  · intro answer isAnswer
    obtain ⟨next, reaches, goes⟩ := first.determined answer isAnswer
    obtain ⟨final, reachesOn, goesOn⟩ :=
      (second next reaches).determined answer goes
    exact ⟨final, reaches.trans reachesOn, goesOn⟩
  · intro fits
    rw [← List.append_assoc] at fits
    obtain ⟨next, reaches, goes⟩ := first.possible fits.of_append
    obtain ⟨final, reachesOn, goesOn⟩ :=
      (second next reaches).possible (by rw [reaches.told]; exact fits)
    exact ⟨final, reaches.trans reachesOn, goes.trans goesOn⟩

/-- One step is made, or its problem ends the reading. -/
theorem Advances.of_step {step : Except UsageProblem Reading}
    (reads : outcome = match step with
      | .error problem => .error problem
      | .ok next => go next)
    (reaches : ∀ next, step = .ok next → reading.Reaches level more next)
    (possible : level.Fits (reading.told ++ more) →
      ∃ next, step = .ok next) :
    reading.Advances level more outcome go := by
  subst reads
  constructor
  · intro answer isAnswer
    cases steps : step with
    | error problem =>
        rw [steps] at isAnswer
        cases isAnswer
    | ok next =>
        rw [steps] at isAnswer
        exact ⟨next, reaches next steps, isAnswer⟩
  · intro fits
    obtain ⟨next, steps⟩ := possible fits
    exact ⟨next, reaches next steps, by rw [steps]⟩

theorem Ready.advances_of_occur (regular : level.Regular)
    (ready : reading.Ready level) (isOption : spec ∈ level.options)
    (values : List Text) (shape : spec.kind.takesValue = !values.isEmpty)
    (reads : outcome = match reading.occur spec values with
      | .error problem => .error problem
      | .ok next => go next) :
    reading.Advances level [⟨spec.name, values⟩] outcome go := by
  have isSpec := Level.mem_specs_of_option isOption
  have valued : spec.kind.takesValue = true → values ≠ [] := by
    intro takesValue isNil
    rw [takesValue, isNil] at shape
    cases shape
  have settled : spec.settled values = values := by
    cases values with
    | nil => exact spec.settled_nil
    | cons first others => exact regular.settled isSpec shape _
  apply Advances.of_step reads
  · intro next occurs
    rw [← settled]
    exact ready.reaches_of_occur regular.distinct isSpec valued occurs
  · intro fits
    rw [← settled] at fits
    exact (ready.exists_occur_iff regular.distinct isSpec valued).mpr fits

theorem Ready.reaches_of_wait_value (regular : level.Regular)
    (ready : reading.Ready level)
    (known : spec ∈ level.options ∨ level.operand = some spec)
    (valued : spec.kind.takesValue = true)
    (waits : reading.wait spec [value] = .ok next) :
    reading.Reaches level [⟨spec.name, [value]⟩] next := by
  have isSpec : spec ∈ level.specs :=
    known.elim Level.mem_specs_of_option Level.mem_specs_of_operand
  have reaches := ready.reaches_of_wait regular.distinct known
    (List.cons_ne_nil value []) waits
  rwa [regular.settled isSpec valued] at reaches

theorem Ready.advances_of_wait (regular : level.Regular)
    (ready : reading.Ready level) (isOption : spec ∈ level.options)
    (valued : spec.kind.takesValue = true)
    (reads : outcome = match reading.wait spec [value] with
      | .error problem => .error problem
      | .ok next => go next) :
    reading.Advances level [⟨spec.name, [value]⟩] outcome go := by
  apply Advances.of_step reads
  · intro next waits
    exact ready.reaches_of_wait_value regular (Or.inl isOption) valued waits
  · intro fits
    exact (ready.exists_wait_iff regular.distinct spec [value]).mpr
      fits.of_append

end Reading

/-! ## From a line to its reading -/

open Reading

variable {reading : Reading} {α : Type} {outcome : Except UsageProblem α}
  {go : Reading → Except UsageProblem α}

theorem readLevel_of_form (regular : level.Regular)
    (noPlain : Form.ofArgument argument ≠ .plain)
    (noSeparator : Form.ofArgument argument ≠ .separator) :
    readLevel level reading false (argument :: rest) =
      match reading.readArgument level false argument with
      | .error problem => .error problem
      | .ok next => readLevel level next false rest := by
  have noCommand : level.commands.contains argument = false := by
    rw [Bool.eq_false_iff]
    intro isCommand
    have plain := regular.commands _ (List.contains_iff_mem.mp isCommand)
    exact noPlain (ofArgument_eq_plain_iff.mpr plain)
  rw [readLevel_cons, noCommand, Bool.and_false, if_neg Bool.false_ne_true,
    decide_eq_false noSeparator]
  rfl

theorem readLevel_of_long {given : Option Text} (regular : level.Regular)
    (form : Form.ofArgument argument = .long name given) :
    readLevel level reading false (argument :: rest) =
      match reading.readLong level name given with
      | .error problem => .error problem
      | .ok next => readLevel level next false rest := by
  have reads : reading.readArgument level false argument =
      reading.readLong level name given := by
    simp only [readArgument, form, Bool.false_eq_true, if_false]
  rw [readLevel_of_form regular (by simp [form]) (by simp [form]), reads]

theorem readLevel_of_letters {letters : Text} (regular : level.Regular)
    (form : Form.ofArgument argument = .letters letters) :
    readLevel level reading false (argument :: rest) =
      match reading.readLetters level letters with
      | .error problem => .error problem
      | .ok next => readLevel level next false rest := by
  have reads : reading.readArgument level false argument =
      reading.readLetters level letters := by
    simp only [readArgument, form, Bool.false_eq_true, if_false]
  rw [readLevel_of_form regular (by simp [form]) (by simp [form]), reads]

theorem readLevel_separator (regular : level.Regular) :
    readLevel level reading false (separator :: rest) =
      readLevel level reading true rest := by
  have noCommand : level.commands.contains separator = false := by
    rw [Bool.eq_false_iff]
    intro isCommand
    have plain := regular.commands _ (List.contains_iff_mem.mp isCommand)
    exact absurd plain (by decide)
  rw [readLevel_cons, noCommand, Bool.and_false, if_neg Bool.false_ne_true]
  rfl

/-- An option whose value is the next argument waits for it. -/
theorem readLevel_of_wait
    (reads : ∀ rest, readLevel level reading false (argument :: rest) =
      match reading.wait spec [] with
      | .error problem => .error problem
      | .ok next => readLevel level next false rest)
    (plain : Plain value) :
    readLevel level reading false (argument :: value :: rest) =
      match reading.wait spec [value] with
      | .error problem => .error problem
      | .ok next => readLevel level next false rest := by
  rw [reads, wait, wait]
  cases reading.settle with
  | error problem => rfl
  | ok settled =>
      have form := ofArgument_eq_plain_iff.mpr plain
      simp only [List.isEmpty_nil, readLevel_cons, Bool.not_true,
        Bool.and_false, Bool.false_and, readArgument, form, readPlain]
      rfl

theorem readLetters_with (isLetter : level.letter? letter = some spec)
    (valued : spec.kind.takesValue = true) (nonempty : value ≠ [])
    (noEquals : value.head? ≠ some '=') :
    reading.readLetters level (letter :: value) =
      reading.occur spec [value] := by
  simp only [readLetters, isLetter, valued, if_true]
  split
  · exact absurd rfl nonempty
  · exact absurd rfl noEquals
  · rfl

theorem Spells.advances {words : List Text} (regular : level.Regular)
    (ready : reading.Ready level) (spells : Spells level words spec values) :
    reading.Advances level [⟨spec.name, values⟩]
      (readLevel level reading false (words ++ rest))
      fun next => readLevel level next false rest := by
  cases spells with
  | name isOption alone =>
      have member := (Level.option?_eq_some isOption).1
      apply ready.advances_of_occur regular member [] alone
      rw [List.singleton_append,
        readLevel_of_long regular (ofArgument_name regular isOption)]
      simp [readLong, isOption, alone]
  | nameEquals isOption valued value =>
      have member := (Level.option?_eq_some isOption).1
      apply ready.advances_of_occur regular member [value] valued
      rw [List.singleton_append, readLevel_of_long regular
        (ofArgument_nameEquals regular isOption value)]
      simp [readLong, isOption, valued]
  | nameThen isOption valued plain =>
      have member := (Level.option?_eq_some isOption).1
      apply ready.advances_of_wait regular member valued
      apply readLevel_of_wait _ plain
      intro rest
      rw [readLevel_of_long regular (ofArgument_name regular isOption)]
      simp [readLong, isOption, valued]
  | letter isLetter alone =>
      have member := (Level.letter?_eq_some isLetter).1
      apply ready.advances_of_occur regular member [] alone
      rw [List.singleton_append, readLevel_of_letters regular
        (ofArgument_letter regular isLetter [])]
      simp only [readLetters, isLetter, alone]
      cases reading.occur spec [] <;> rfl
  | letterEquals isLetter valued value =>
      have member := (Level.letter?_eq_some isLetter).1
      apply ready.advances_of_occur regular member [value] valued
      rw [List.singleton_append, readLevel_of_letters regular
        (ofArgument_letter regular isLetter ('=' :: value))]
      simp [readLetters, isLetter, valued]
  | @letterWith _ _ value isLetter valued nonempty noEquals =>
      have member := (Level.letter?_eq_some isLetter).1
      apply ready.advances_of_occur regular member [value] valued
      rw [List.singleton_append, readLevel_of_letters regular
        (ofArgument_letter regular isLetter _),
        readLetters_with isLetter valued nonempty noEquals]
  | letterThen isLetter valued plain =>
      have member := (Level.letter?_eq_some isLetter).1
      apply ready.advances_of_wait regular member valued
      apply readLevel_of_wait _ plain
      intro rest
      rw [readLevel_of_letters regular
        (ofArgument_letter regular isLetter [])]
      simp [readLetters, isLetter, valued]

theorem advances_together {next : Char} {letters : Text}
    (regular : level.Regular) (ready : reading.Ready level)
    (isLetter : level.letter? letter = some spec)
    (alone : spec.kind.takesValue = false) (isNoHyphen : next ≠ '-') :
    reading.Advances level [⟨spec.name, []⟩]
      (readLevel level reading false
        (('-' :: letter :: next :: letters) :: rest))
      fun reached => readLevel level reached false
        (('-' :: next :: letters) :: rest) := by
  have member := (Level.letter?_eq_some isLetter).1
  apply ready.advances_of_occur regular member [] alone
  rw [readLevel_of_letters regular
    (ofArgument_letter regular isLetter (next :: letters)), readLetters]
  simp only [isLetter, alone, Bool.false_eq_true, if_false]
  cases reading.occur spec [] with
  | error problem => rfl
  | ok reached =>
      simp only [readLevel_of_letters regular
        (ofArgument_letters isNoHyphen letters)]

/-- An operand takes its place if that is free. -/
theorem Reading.Ready.advances_of_operand (regular : level.Regular)
    (ready : reading.Ready level) (isOperand : level.operand = some spec)
    (afterSeparator : Bool)
    (reads : outcome =
      match reading.readOperand level afterSeparator argument with
      | .error problem => .error problem
      | .ok next => go next) :
    reading.Advances level [⟨spec.name, [argument]⟩] outcome go := by
  have isSpec := Level.mem_specs_of_operand isOperand
  have valued := (regular.operand spec isOperand).1
  obtain ⟨rule, isSingle⟩ := regular.exists_single isSpec valued
  apply Advances.of_step reads
  · intro next takes
    obtain ⟨operand, isItsOperand, takes⟩ := readOperand_eq_ok_iff.mp takes
    cases isOperand.symm.trans isItsOperand
    cases takes with
    | more isList | first isList => cases isSingle.symm.trans isList
    | only _ _ waits =>
        exact (ready.reaches_of_wait_value regular (Or.inr isOperand) valued
          waits).takePlace isOperand
  · intro fits
    obtain ⟨waited, waits⟩ :=
      (ready.exists_wait_iff regular.distinct spec [argument]).mpr
        fits.of_append
    -- A second operand would be given twice, which does not fit.
    have isFree : reading.hasOperand = false := by
      rw [Bool.eq_false_iff]
      intro taken
      obtain ⟨operand, isItsOperand, has⟩ := ready.operand taken
      cases isOperand.symm.trans isItsOperand
      have absent := (fits spec isSpec).absent isSingle
      cases absent.symm.trans has
    refine ⟨_, readOperand_eq_ok_iff.mpr ⟨spec, isOperand,
      .only ?_ isFree waits⟩⟩
    intro otherRule isSplit isList
    cases isSingle.symm.trans isList

theorem Trailing.advances {arguments : List Text} {given : Occurrences}
    (regular : level.Regular) (ready : reading.Ready level)
    (trailing : Trailing level arguments given) :
    reading.Advances level given (readLevel level reading true arguments)
      fun next => .ok (next, none) := by
  induction trailing generalizing reading with
  | nil => exact .refl (fun next => .ok (next, none)) ready
  | @cons spec argument rest given isOperand _ ih =>
      have step : reading.Advances level [⟨spec.name, [argument]⟩]
          (readLevel level reading true (argument :: rest))
          fun next => readLevel level next true rest := by
        apply ready.advances_of_operand regular isOperand true
        rw [readLevel]
        cases reading.readOperand level true argument <;> rfl
      exact step.trans fun next reaches => ih reaches.ready

/-- Reading a line comes to its end with what is given on it. -/
theorem Line.advances {arguments : List Text} {given : Occurrences}
    {stop : Option (Text × List Text)} (regular : level.Regular)
    (ready : reading.Ready level) (line : Line level arguments stop given) :
    reading.Advances level given (readLevel level reading false arguments)
      fun next => .ok (next, stop) := by
  -- Every part of the line hands a ready reading on to the rest.
  induction line generalizing reading with
  | done => exact .refl (fun next => .ok (next, none)) ready
  | @command name isCommand rest =>
      have contains : level.commands.contains name = true :=
        List.contains_iff_mem.mpr isCommand
      rw [readLevel_cons, ready.wantsValue, contains]
      exact .refl (fun next => .ok (next, some (name, rest))) ready
  | separated trailing =>
      rw [readLevel_separator regular]
      exact trailing.advances regular ready
  | option spells _ ih =>
      exact (spells.advances regular ready).trans
        fun next reaches => ih reaches.ready
  | together isLetter alone isNoHyphen _ ih =>
      exact (advances_together regular ready isLetter alone isNoHyphen).trans
        fun next reaches => ih reaches.ready
  | @operand spec argument rest stop given isOperand plain _ ih =>
      have step : reading.Advances level [⟨spec.name, [argument]⟩]
          (readLevel level reading false (argument :: rest))
          fun next => readLevel level next false rest := by
        apply ready.advances_of_operand regular isOperand false
        have noCommands := (regular.operand spec isOperand).2
        have form := ofArgument_eq_plain_iff.mpr plain
        rw [readLevel_cons, noCommands, readArgument, form]
        simp only [readPlain_of_not_wanting ready.wantsValue,
          List.contains_nil, Bool.and_false, Bool.false_eq_true, if_false]
        cases reading.readOperand level false argument <;> rfl
      exact step.trans fun next reaches => ih reaches.ready

end CommandLine

end AccessAudit
