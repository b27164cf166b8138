import AccessAudit.Proofs.CommandLine.Progress

/-!
# The lines that are read

Whatever a reading accepts is a line.  Together with the way back, a level
accepts exactly the lines whose occurrences are allowed.
-/

namespace AccessAudit

namespace CommandLine

open Reading

variable {level : Level} {spec : OptionSpec} {reading : Reading}
  {values rest : List Text} {argument name value : Text} {letter : Char}

/-! ## From a reading to its line -/

/-- What is left for a reading is a line, after the value if one is wanted. -/
inductive Reading.Continues (level : Level) (reading : Reading) :
    List Text → Option (Text × List Text) → Prop
  | line {arguments stop given} (noValue : reading.wantsValue = false)
      (line : Line level arguments stop given) :
      Continues level reading arguments stop
  | value {value rest stop given} (wants : reading.wantsValue = true)
      (plain : Plain value) (line : Line level rest stop given) :
      Continues level reading (value :: rest) stop

variable {next final settled : Reading} {arguments : List Text}
  {given : Occurrences} {stop : Option (Text × List Text)}

theorem Reading.Continues.exists_line
    (continues : reading.Continues level arguments stop)
    (noValue : reading.wantsValue = false) :
    ∃ given, Line level arguments stop given := by
  cases continues with
  | line _ line => exact ⟨_, line⟩
  | value wants => cases noValue.symm.trans wants

theorem Reading.Continues.exists_value
    (continues : reading.Continues level arguments stop)
    (wants : reading.wantsValue = true) :
    ∃ value rest given, arguments = value :: rest ∧ Plain value ∧
      Line level rest stop given := by
  cases continues with
  | line noValue => cases noValue.symm.trans wants
  | value _ plain line => exact ⟨_, _, _, rfl, plain, line⟩

theorem noValue_of_occur (proper : reading.Proper level)
    (occurs : reading.occur spec values = .ok next) :
    reading.wantsValue = false := by
  rw [occur] at occurs
  split at occurs
  · cases occurs
  · next settles => exact wantsValue_of_settle proper settles

theorem noValue_of_wait (proper : reading.Proper level)
    (waits : reading.wait spec values = .ok next) :
    reading.wantsValue = false := by
  rw [wait] at waits
  split at waits
  · cases waits
  · next settles => exact wantsValue_of_settle proper settles

/-- An option that occurs is spelled in front of what is left. -/
theorem Reading.Continues.of_occur {words given : List Text}
    (continues : next.Continues level rest stop)
    (proper : reading.Proper level)
    (occurs : reading.occur spec values = .ok next)
    (spells : Spells level words spec given) :
    reading.wantsValue = false ∧
      ∃ told, Line level (words ++ rest) stop told := by
  have noValue : next.wantsValue = false := by rw [eq_of_occur occurs]
  obtain ⟨told, line⟩ := continues.exists_line noValue
  exact ⟨noValue_of_occur proper occurs, _, .option spells line⟩

/-- An option that waits is spelled with the value that comes next. -/
theorem Reading.Continues.of_wait
    (continues : next.Continues level rest stop)
    (proper : reading.Proper level)
    (waits : reading.wait spec [] = .ok next)
    (spells : ∀ {value}, Plain value →
      Spells level [argument, value] spec [value]) :
    reading.wantsValue = false ∧
      ∃ told, Line level (argument :: rest) stop told := by
  have wants : next.wantsValue = true := by
    rw [eq_of_wait waits]
    rfl
  obtain ⟨value, rest, told, rfl, plain, line⟩ :=
    continues.exists_value wants
  exact ⟨noValue_of_wait proper waits, _, .option (spells plain) line⟩

theorem exists_line_of_readLong {given : Option Text}
    (proper : reading.Proper level)
    (reads : reading.readLong level name given = .ok next)
    (continues : next.Continues level rest stop) :
    reading.wantsValue = false ∧ ∃ told, Line level
      (('-' :: '-' :: (name ++ equalsValue given)) :: rest) stop told := by
  rw [readLong] at reads
  split at reads
  · cases reads
  · next spec isOption =>
      cases given with
      | some value =>
          simp only at reads
          split at reads
          · next valued =>
              exact continues.of_occur proper reads
                (.nameEquals isOption valued value)
          · cases reads
      | none =>
          simp only [equalsValue, List.append_nil] at reads ⊢
          split at reads
          · next valued =>
              exact continues.of_wait proper reads
                (.nameThen isOption valued)
          · next alone =>
              exact continues.of_occur proper reads
                (.name isOption (Bool.eq_false_iff.mpr alone))

theorem exists_line_of_valued {letters : Text}
    (proper : reading.Proper level)
    (isLetter : level.letter? letter = some spec)
    (valued : spec.kind.takesValue = true)
    (reads : reading.readLetters level (letter :: letters) = .ok next)
    (continues : next.Continues level rest stop) :
    reading.wantsValue = false ∧ ∃ told, Line level
      (('-' :: letter :: letters) :: rest) stop told := by
  simp only [readLetters, isLetter, valued, if_true] at reads
  split at reads
  · exact continues.of_wait proper reads (.letterThen isLetter valued)
  · exact continues.of_occur proper reads (.letterEquals isLetter valued _)
  · next nonempty noEquals =>
      have noEqualsAhead : letters.head? ≠ some '=' := by
        intro isEquals
        obtain ⟨value, isValue⟩ := List.head?_eq_some_iff.mp isEquals
        exact noEquals value isValue
      exact continues.of_occur proper reads
        (.letterWith isLetter valued nonempty noEqualsAhead)

/-- The first letter is known, and if it stands for no value, the other
letters are read after it. -/
theorem exists_letter_of_readLetters {letters : Text}
    (reads : reading.readLetters level (letter :: letters) = .ok next) :
    ∃ spec, level.letter? letter = some spec ∧
      (spec.kind.takesValue = true ∨ spec.kind.takesValue = false ∧
        ∃ middle, reading.occur spec [] = .ok middle ∧
          middle.readLetters level letters = .ok next) := by
  rw [readLetters] at reads
  split at reads
  · cases reads
  · next spec isLetter =>
      refine ⟨spec, isLetter, ?_⟩
      split at reads
      · next valued => exact Or.inl valued
      · next alone =>
          split at reads
          · cases reads
          · next middle occurs =>
              exact Or.inr
                ⟨Bool.eq_false_iff.mpr alone, middle, occurs, reads⟩

theorem exists_line_of_readLetters {letters : Text}
    (regular : level.Regular) (proper : reading.Proper level)
    (reads : reading.readLetters level (letter :: letters) = .ok next)
    (continues : next.Continues level rest stop) :
    reading.wantsValue = false ∧ ∃ told, Line level
      (('-' :: letter :: letters) :: rest) stop told := by
  induction letters generalizing reading letter with
  | nil =>
      obtain ⟨spec, isLetter, valued | ⟨alone, middle, occurs, same⟩⟩ :=
        exists_letter_of_readLetters reads
      · exact exists_line_of_valued proper isLetter valued reads continues
      · cases same
        exact continues.of_occur proper occurs (.letter isLetter alone)
  | cons second others ih =>
      obtain ⟨spec, isLetter, valued | ⟨alone, middle, occurs, later⟩⟩ :=
        exists_letter_of_readLetters reads
      · exact exists_line_of_valued proper isLetter valued reads continues
      · obtain ⟨-, told, line⟩ := ih (.of_occur occurs) later
        -- The second letter is known, so it does not make the rest of the
        -- letters a long name.
        obtain ⟨other, isItsLetter, -⟩ := exists_letter_of_readLetters later
        have isNoHyphen := isNoHyphen_of_letter regular isItsLetter
        exact ⟨noValue_of_occur proper occurs, _,
          .together isLetter alone isNoHyphen line⟩

/-- An operand takes the place of the operand and waits there. -/
theorem exists_operand_of_readOperand {afterSeparator : Bool}
    (regular : level.Regular) (proper : reading.Proper level)
    (reads : reading.readOperand level afterSeparator argument = .ok next) :
    ∃ operand, level.operand = some operand ∧
      reading.wantsValue = false ∧ next.wantsValue = false := by
  obtain ⟨operand, isOperand, takes⟩ := readOperand_eq_ok_iff.mp reads
  obtain ⟨rule, isSingle⟩ := regular.exists_single
    (Level.mem_specs_of_operand isOperand)
    (regular.operand operand isOperand).1
  cases takes with
  | more isList | first isList => cases isSingle.symm.trans isList
  | only _ _ waits =>
      have noValue := noValue_of_wait proper waits
      rw [eq_of_wait waits]
      exact ⟨operand, isOperand, noValue, rfl⟩

theorem exists_trailing_of_readLevel (regular : level.Regular)
    (proper : reading.Proper level)
    (reads : readLevel level reading true arguments = .ok (final, stop))
    (settles : final.settle = .ok settled) :
    reading.wantsValue = false ∧ stop = none ∧
      ∃ given, Trailing level arguments given := by
  induction arguments generalizing reading with
  | nil =>
      cases reads
      exact ⟨wantsValue_of_settle proper settles, rfl, [], .nil⟩
  | cons argument rest ih =>
      rw [readLevel_cons] at reads
      simp only [Bool.not_true, Bool.false_and, Bool.false_eq_true, if_false,
        readArgument, if_true, Bool.true_or] at reads
      split at reads
      · cases reads
      · next next takes =>
          obtain ⟨operand, isOperand, noValue, -⟩ :=
            exists_operand_of_readOperand regular proper takes
          obtain ⟨-, noStop, given, trailing⟩ :=
            ih (proper.readOperand regular.names takes) reads
          exact ⟨noValue, noStop, _, .cons isOperand trailing⟩

theorem continues_of_readPlain (regular : level.Regular)
    (proper : reading.Proper level) (plain : Plain argument)
    (reads : reading.readPlain level argument = .ok next)
    (continues : next.Continues level rest stop) :
    reading.Continues level (argument :: rest) stop := by
  cases wants : reading.wantsValue with
  | true =>
      obtain ⟨spec, -, -, isWaiting⟩ := proper.wanting wants
      rw [readPlain, isWaiting, wants] at reads
      cases reads
      obtain ⟨given, line⟩ := continues.exists_line rfl
      exact .value wants plain line
  | false =>
      rw [readPlain_of_not_wanting wants] at reads
      obtain ⟨operand, isOperand, -, noValue⟩ :=
        exists_operand_of_readOperand regular proper reads
      obtain ⟨given, line⟩ := continues.exists_line noValue
      exact .line wants (.operand isOperand plain line)

theorem continues_of_readArgument (regular : level.Regular)
    (proper : reading.Proper level)
    (noSeparator : Form.ofArgument argument ≠ .separator)
    (reads : reading.readArgument level false argument = .ok next)
    (continues : next.Continues level rest stop) :
    reading.Continues level (argument :: rest) stop := by
  rw [readArgument, if_neg Bool.false_ne_true] at reads
  split at reads
  · next form => exact absurd form noSeparator
  · next name value form =>
      obtain ⟨noValue, given, line⟩ :=
        exists_line_of_readLong proper reads continues
      rw [eq_of_ofArgument_long form]
      exact .line noValue line
  · next letters form =>
      obtain ⟨letter, others, rfl, rfl⟩ := eq_of_ofArgument_letters form
      obtain ⟨noValue, given, line⟩ :=
        exists_line_of_readLetters regular proper reads continues
      exact .line noValue line
  · next form =>
      exact continues_of_readPlain regular proper
        (ofArgument_eq_plain_iff.mp form) reads continues

/-- A reading that comes to its end and can be settled reads a line. -/
theorem continues_of_readLevel (regular : level.Regular)
    (proper : reading.Proper level)
    (reads : readLevel level reading false arguments = .ok (final, stop))
    (settles : final.settle = .ok settled) :
    reading.Continues level arguments stop := by
  induction arguments generalizing reading with
  | nil =>
      cases reads
      exact .line (wantsValue_of_settle proper settles) .done
  | cons argument rest ih =>
      rw [readLevel_cons] at reads
      split at reads
      · next isCommand =>
          cases reads
          simp only [Bool.not_false, Bool.true_and, Bool.and_eq_true,
            Bool.not_eq_true'] at isCommand
          exact .line isCommand.1
            (.command (List.contains_iff_mem.mp isCommand.2) rest)
      · split at reads
        · cases reads
        · next next readsArgument =>
            have nextProper := proper.readArgument regular.names readsArgument
            by_cases form : Form.ofArgument argument = .separator
            -- Behind a separator all are operands, which is another
            -- induction.
            · have same : reading = next := by
                simpa [readArgument, form] using readsArgument
              subst same
              simp only [form, decide_true, Bool.or_true] at reads
              obtain ⟨noValue, rfl, given, trailing⟩ :=
                exists_trailing_of_readLevel regular proper reads settles
              rw [(ofArgument_eq_separator_iff argument).mp form]
              exact .line noValue (.separated trailing)
            · simp only [form, decide_false, Bool.or_false] at reads
              exact continues_of_readArgument regular proper form
                readsArgument (ih nextProper reads)

/-! ## Levels -/

/-- A command line is read up to its end or a command, and can be settled
there, exactly if it is a line on which all fits. -/
theorem readLevel_settle_iff (regular : level.Regular) :
    (∃ final, readLevel level {} false arguments = .ok (final, stop) ∧
      ∃ settled, final.settle = .ok settled ∧ settled.given = given) ↔
      Line level arguments stop given ∧ level.Fits given := by
  constructor
  · rintro ⟨final, reads, settled, settles, rfl⟩
    have ready := Ready.start level
    obtain ⟨given, line⟩ := (continues_of_readLevel regular ready.proper
      reads settles).exists_line rfl
    obtain ⟨next, ⟨nextReady, told⟩, ends⟩ :=
      (line.advances regular ready).determined _ reads
    cases ends
    rw [eq_of_settle settles, told]
    refine ⟨line, ?_⟩
    rw [← told]
    exact (nextReady.exists_settle_iff regular.distinct).mp
      ⟨settled, settles⟩
  · rintro ⟨line, fits⟩
    obtain ⟨final, ⟨ready, told⟩, reads⟩ :=
      (line.advances regular (Ready.start level)).possible fits
    have fitsTold : level.Fits final.told := by
      rw [told]
      exact fits
    obtain ⟨settled, settles⟩ :=
      (ready.exists_settle_iff regular.distinct).mpr fitsTold
    refine ⟨final, reads, settled, settles, ?_⟩
    rw [eq_of_settle settles, told]
    rfl

theorem Line.given_eq (regular : level.Regular)
    (line : Line level arguments stop given)
    {answer : Option (Text × List Text)}
    (reads : readLevel level {} false arguments = .ok (final, answer))
    (settles : final.settle = .ok settled) :
    answer = stop ∧ settled.given = given := by
  obtain ⟨next, ⟨-, told⟩, ends⟩ :=
    (line.advances regular (Ready.start level)).determined _ reads
  cases ends
  refine ⟨rfl, ?_⟩
  rw [eq_of_settle settles, told]
  rfl

theorem Line.stop_eq_none (noCommands : level.commands = [])
    (line : Line level arguments stop given) : stop = none := by
  induction line with
  | done => rfl
  | command isCommand =>
      rw [noCommands] at isCommand
      cases isCommand
  | separated => rfl
  | option _ _ ih | together _ _ _ _ ih | operand _ _ _ ih => exact ih

/-- A level without commands accepts the lines whose occurrences are allowed,
and nothing else. -/
theorem Level.read_eq_ok_iff_line (regular : level.Regular)
    (noCommands : level.commands = []) :
    level.read arguments = .ok given ↔
      Line level arguments none given ∧ level.Allows given := by
  rw [read_eq_ok_iff]
  constructor
  · rintro ⟨final, stop, settled, reads, settles, noViolation, rfl⟩
    obtain ⟨line, fits⟩ := (readLevel_settle_iff regular).mp
      ⟨final, reads, settled, settles, rfl⟩
    cases line.stop_eq_none noCommands
    exact ⟨line, (violation?_eq_none_iff fits).mp noViolation⟩
  · rintro ⟨line, allows⟩
    obtain ⟨final, reads, settled, settles, rfl⟩ :=
      (readLevel_settle_iff regular).mpr ⟨line, allows.fits⟩
    exact ⟨final, none, settled, reads, settles,
      (violation?_eq_none_iff allows.fits).mpr allows, rfl⟩

end CommandLine

end AccessAudit
