import AccessAudit.Proofs.CommandLine.Reading

/-!
# A quiet flag on a command line

A command line to which `-q` is added in front of a separator is refused, or
asks for the same in quiet mode.  The two command lines are read side by side:
once the flag is read, both readings come to the same occurrences, apart from
the flag and from operands that it parts.
-/

namespace AccessAudit

namespace CommandLine

def quietName : Text := "quiet"

namespace Occurrences

/-- The other occurrences have a quiet flag, and apart from that the same
values, perhaps in more occurrences. -/
structure Quieter (given other : Occurrences) : Prop where
  flag : other.has quietName = true
  has : ∀ name, name ≠ quietName → other.has name = given.has name
  values : ∀ name, name ≠ quietName →
    other.values name = given.values name
  count : other.count countedName = given.count countedName

namespace Quieter

theorem added (given : Occurrences) :
    Quieter given (given ++ [⟨quietName, []⟩]) := by
  constructor
  · simp [has_append, has_singleton]
  · intro name different
    simp [has_append, has_singleton, Ne.symm different]
  · intro name different
    simp [values_append, values_singleton]
  · have notCounted : quietName ≠ countedName := by decide
    simp [count_append, count_singleton, notCounted]

variable {given other : Occurrences} {name : Text}
  {values otherValues more : List Text}

theorem append (quieter : given.Quieter other) (later : Occurrences) :
    Quieter (given ++ later) (other ++ later) := by
  constructor
  · rw [has_append, quieter.flag, Bool.true_or]
  · intro name different
    rw [has_append, has_append, quieter.has name different]
  · intro name different
    rw [values_append, values_append, quieter.values name different]
  · rw [count_append, count_append, quieter.count]

/-- The last occurrences may get more values. -/
theorem extend
    (quieter : Quieter (given ++ [⟨name, values⟩])
      (other ++ [⟨name, otherValues⟩])) (more : List Text) :
    Quieter (given ++ [⟨name, values ++ more⟩])
      (other ++ [⟨name, otherValues ++ more⟩]) := by
  obtain ⟨flag, has, sameValues, count⟩ := quieter
  simp only [has_append, has_singleton, values_append, values_singleton,
    count_append, count_singleton] at flag has sameValues count
  constructor
  · simpa only [has_append, has_singleton] using flag
  · simpa only [has_append, has_singleton] using has
  · intro asked different
    have same := sameValues asked different
    simp only [values_append, values_singleton]
    by_cases here : name = asked
    · simp only [here, if_true, ← List.append_assoc] at same ⊢
      rw [same]
    · simpa only [here, if_false] using same
  · simpa only [count_append, count_singleton] using count

/-- Values that one side adds to its last occurrence may have an occurrence of
their own on the other side. -/
theorem part (quieter : Quieter (given ++ [⟨name, values⟩]) other)
    (notCounted : name ≠ countedName) (more : List Text) :
    Quieter (given ++ [⟨name, values ++ more⟩])
      (other ++ [⟨name, more⟩]) := by
  obtain ⟨flag, has, sameValues, count⟩ := quieter
  simp only [has_append, has_singleton, values_append, values_singleton,
    count_append, count_singleton] at has sameValues count
  constructor
  · rw [has_append, flag, Bool.true_or]
  · intro asked different
    simp [has_append, has_singleton, has asked different]
  · intro asked different
    have same := sameValues asked different
    simp only [values_append, values_singleton]
    by_cases here : name = asked
    · simp only [here, if_true, ← List.append_assoc] at same ⊢
      rw [same]
    · simpa only [here, if_false, List.append_nil] using same
  · simpa [count_append, count_singleton, notCounted] using count

end Quieter

end Occurrences

namespace Reading

variable {level : Level} {reading next : Reading} {spec : OptionSpec}
  {values : List Text} {argument name : Text} {value : Option Text}

/-! ## Two readings -/

/-- The quiet reading has come as far as the loud one.  What waits there may
be settled here in part. -/
structure Matches (loud quiet : Reading) : Prop where
  told : loud.told.Quieter quiet.told
  wantsValue : quiet.wantsValue = loud.wantsValue
  hasOperand : quiet.hasOperand = loud.hasOperand
  pending : loud.wantsValue = true → quiet.waiting = loud.waiting
  waiting : ∀ spec values, quiet.waiting = some (spec, values) →
    ∃ front, loud.waiting = some (spec, front ++ values)

/-- The quiet flag settles what waits and adds itself. -/
theorem matches_of_flag (proper : reading.Proper level)
    (isFlag : spec.name = quietName)
    (occurs : reading.occur spec [] = .ok next) : reading.Matches next := by
  have settled : ∃ rest, reading.settle = .ok rest := by
    rw [occur] at occurs
    split at occurs
    · cases occurs
    · next rest settles => exact ⟨rest, settles⟩
  obtain ⟨rest, settles⟩ := settled
  have noValue := wantsValue_of_settle proper settles
  rw [eq_of_occur occurs, isFlag, spec.settled_nil]
  constructor
  · simp only [told, List.append_nil]
    exact .added reading.told
  · exact noValue.symm
  · rfl
  · intro wants
    rw [noValue] at wants
    cases wants
  · intro other values waiting
    cases waiting

variable {loud quiet loudNext quietNext : Reading}

theorem Matches.of_occur (matched : loud.Matches quiet)
    (loudOccurs : loud.occur spec values = .ok loudNext)
    (quietOccurs : quiet.occur spec values = .ok quietNext) :
    loudNext.Matches quietNext := by
  rw [eq_of_occur loudOccurs, eq_of_occur quietOccurs]
  constructor
  · simp only [Reading.told, List.append_nil]
    exact matched.told.append _
  · rfl
  · exact matched.hasOperand
  · intro wants
    cases wants
  · intro other otherValues waiting
    cases waiting

theorem Matches.of_wait (matched : loud.Matches quiet)
    (loudWaits : loud.wait spec values = .ok loudNext)
    (quietWaits : quiet.wait spec values = .ok quietNext) :
    loudNext.Matches quietNext := by
  rw [eq_of_wait loudWaits, eq_of_wait quietWaits]
  constructor
  · exact matched.told.append _
  · rfl
  · exact matched.hasOperand
  · intro _
    rfl
  · intro other otherValues waiting
    exact ⟨[], waiting⟩

theorem Matches.readLong (matched : loud.Matches quiet)
    (loudReads : loud.readLong level name value = .ok loudNext)
    (quietReads : quiet.readLong level name value = .ok quietNext) :
    loudNext.Matches quietNext := by
  simp only [Reading.readLong] at loudReads quietReads
  cases found : level.option? name with
  | none =>
      rw [found] at loudReads
      cases loudReads
  | some spec =>
      simp only [found] at loudReads quietReads
      cases value with
      | some value =>
          simp only at loudReads quietReads
          split at loudReads
          · next takesValue =>
              rw [if_pos takesValue] at quietReads
              exact matched.of_occur loudReads quietReads
          · cases loudReads
      | none =>
          simp only at loudReads quietReads
          split at loudReads
          · next takesValue =>
              rw [if_pos takesValue] at quietReads
              exact matched.of_wait loudReads quietReads
          · next alone =>
              rw [if_neg alone] at quietReads
              exact matched.of_occur loudReads quietReads

theorem Matches.readLetters {letters : Text} (matched : loud.Matches quiet)
    (loudReads : loud.readLetters level letters = .ok loudNext)
    (quietReads : quiet.readLetters level letters = .ok quietNext) :
    loudNext.Matches quietNext := by
  induction letters generalizing loud quiet with
  | nil =>
      cases loudReads
      cases quietReads
      exact matched
  | cons letter rest ih =>
      rw [Reading.readLetters] at loudReads quietReads
      cases found : level.letter? letter with
      | none =>
          rw [found] at loudReads
          cases loudReads
      | some spec =>
          simp only [found] at loudReads quietReads
          split at loudReads
          · next takesValue =>
              rw [if_pos takesValue] at quietReads
              split at loudReads
              · exact matched.of_wait loudReads quietReads
              · exact matched.of_occur loudReads quietReads
              · exact matched.of_occur loudReads (by simpa using quietReads)
          · next alone =>
              rw [if_neg alone] at quietReads
              split at loudReads
              · cases loudReads
              · next loudOccurs =>
                  split at quietReads
                  · cases quietReads
                  · next quietOccurs =>
                      exact ih (matched.of_occur loudOccurs quietOccurs)
                        loudReads quietReads

/-- Both readings get one more value for what waits. -/
theorem Matches.extended (matched : loud.Matches quiet) {later : List Text}
    (isWaiting : loud.waiting = some (spec, values))
    (quietWaiting : quiet.waiting = some (spec, later)) (argument : Text) :
    Matches
      { loud with
        waiting := some (spec, values ++ [argument])
        wantsValue := false }
      { quiet with
        waiting := some (spec, later ++ [argument])
        wantsValue := false } := by
  have told := matched.told
  simp only [Reading.told, isWaiting, quietWaiting] at told
  obtain ⟨front, same⟩ := matched.waiting spec later quietWaiting
  rw [isWaiting] at same
  cases same
  constructor
  · simp only [Reading.told]
    rw [spec.settled_append (front ++ later), spec.settled_append later]
    exact told.extend _
  · rfl
  · exact matched.hasOperand
  · intro wants
    cases wants
  · intro other otherValues waiting
    cases waiting
    exact ⟨front, by rw [List.append_assoc]⟩

/-- The quiet reading has settled the values before, and lets the operand wait
anew. -/
theorem Matches.parted (matched : loud.Matches quiet)
    (notCounted : spec.name ≠ countedName)
    (isWaiting : loud.waiting = some (spec, values))
    (waits : quiet.wait spec [argument] = .ok quietNext) :
    Matches
      { loud with
        waiting := some (spec, values ++ [argument])
        wantsValue := false }
      quietNext := by
  have told := matched.told
  rw [Reading.told, isWaiting] at told
  rw [eq_of_wait waits]
  constructor
  · simp only [Reading.told, OptionSpec.settled_append] at told ⊢
    exact told.part notCounted _
  · rfl
  · exact matched.hasOperand
  · intro wants
    cases wants
  · intro other otherValues waiting
    cases waiting
    exact ⟨values, rfl⟩

theorem Matches.readOperand {afterSeparator : Bool}
    (names : level.NamesOperand) (proper : loud.Proper level)
    (matched : loud.Matches quiet)
    (loudReads : loud.readOperand level afterSeparator argument =
      .ok loudNext)
    (quietReads : quiet.readOperand level afterSeparator argument =
      .ok quietNext) :
    loudNext.Matches quietNext := by
  obtain ⟨spec, isOperand, loudTakes⟩ := readOperand_eq_ok_iff.mp loudReads
  obtain ⟨other, isOther, quietTakes⟩ := readOperand_eq_ok_iff.mp quietReads
  cases isOperand.symm.trans isOther
  cases loudTakes with
  | more isList isWaiting sameName =>
      obtain ⟨rfl, noValue⟩ :=
        proper.operand_waits names isOperand isWaiting sameName
      rw [noValue]
      cases quietTakes with
      | more _ quietWaiting _ =>
          obtain ⟨front, same⟩ := matched.waiting _ _ quietWaiting
          rw [isWaiting] at same
          cases same
          rw [matched.wantsValue, noValue]
          exact matched.extended isWaiting quietWaiting argument
      | first _ _ waits =>
          have notCounted := (names _ isOperand).1
          exact matched.parted notCounted isWaiting waits
      | only noList => exact absurd isList (noList _ _)
  | first isList differs waits =>
      cases quietTakes with
      | more _ quietWaiting sameName =>
          obtain ⟨front, same⟩ := matched.waiting _ _ quietWaiting
          exact absurd sameName (differs _ _ same)
      | first _ _ quietWaits => exact matched.of_wait waits quietWaits
      | only noList => exact absurd isList (noList _ _)
  | only noList _ waits =>
      cases quietTakes with
      | more isList => exact absurd isList (noList _ _)
      | first isList => exact absurd isList (noList _ _)
      | only _ _ quietWaits =>
          have next := matched.of_wait waits quietWaits
          exact ⟨next.told, next.wantsValue, rfl, next.pending, next.waiting⟩

theorem Matches.readPlain (names : level.NamesOperand)
    (proper : loud.Proper level) (matched : loud.Matches quiet)
    (loudReads : loud.readPlain level argument = .ok loudNext)
    (quietReads : quiet.readPlain level argument = .ok quietNext) :
    loudNext.Matches quietNext := by
  cases wants : loud.wantsValue with
  | true =>
      obtain ⟨spec, _, _, isWaiting⟩ := proper.wanting wants
      have quietWaiting := (matched.pending wants).trans isWaiting
      rw [Reading.readPlain, wants, isWaiting] at loudReads
      rw [Reading.readPlain, matched.wantsValue, wants, quietWaiting]
        at quietReads
      cases loudReads
      cases quietReads
      exact matched.extended isWaiting quietWaiting argument
  | false =>
      rw [readPlain_of_not_wanting wants] at loudReads
      rw [readPlain_of_not_wanting (matched.wantsValue.trans wants)]
        at quietReads
      exact matched.readOperand names proper loudReads quietReads

theorem Matches.readArgument {afterSeparator : Bool}
    (names : level.NamesOperand) (proper : loud.Proper level)
    (matched : loud.Matches quiet)
    (loudReads : loud.readArgument level afterSeparator argument =
      .ok loudNext)
    (quietReads : quiet.readArgument level afterSeparator argument =
      .ok quietNext) :
    loudNext.Matches quietNext := by
  rw [Reading.readArgument] at loudReads quietReads
  split at loudReads
  · next isAfter =>
      rw [if_pos isAfter] at quietReads
      exact matched.readOperand names proper loudReads quietReads
  · next notAfter =>
      rw [if_neg notAfter] at quietReads
      cases form : Form.ofArgument argument with
      | separator =>
          rw [form] at loudReads quietReads
          cases loudReads
          cases quietReads
          exact matched
      | long name value =>
          rw [form] at loudReads quietReads
          exact matched.readLong loudReads quietReads
      | letters letters =>
          rw [form] at loudReads quietReads
          exact matched.readLetters loudReads quietReads
      | plain =>
          rw [form] at loudReads quietReads
          exact matched.readPlain names proper loudReads quietReads

/-- Both readings end the level at the same place. -/
theorem Matches.readLevel {afterSeparator : Bool} {arguments : List Text}
    {loudRest quietRest : Option (Text × List Text)}
    (names : level.NamesOperand) (proper : loud.Proper level)
    (matched : loud.Matches quiet)
    (loudReads : CommandLine.readLevel level loud afterSeparator arguments =
      .ok (loudNext, loudRest))
    (quietReads :
      CommandLine.readLevel level quiet afterSeparator arguments =
        .ok (quietNext, quietRest)) :
    loudNext.Matches quietNext ∧ quietRest = loudRest := by
  induction arguments generalizing loud quiet afterSeparator with
  | nil =>
      cases loudReads
      cases quietReads
      exact ⟨matched, rfl⟩
  | cons argument rest ih =>
      rw [readLevel_cons] at loudReads quietReads
      rw [matched.wantsValue] at quietReads
      split at loudReads
      · next isCommand =>
          rw [if_pos isCommand] at quietReads
          cases loudReads
          cases quietReads
          exact ⟨matched, rfl⟩
      · next noCommand =>
          rw [if_neg noCommand] at quietReads
          split at loudReads
          · cases loudReads
          · next loudReadsOne =>
              split at quietReads
              · cases quietReads
              · next quietReadsOne =>
                  exact ih (proper.readArgument names loudReadsOne)
                    (matched.readArgument names proper loudReadsOne
                      quietReadsOne)
                    loudReads quietReads

end Reading

/-- The quiet flag, as it is written. -/
def quietFlag : Text := "-q"

/-- The level knows the quiet flag. -/
structure Level.Hushable (level : Level) : Prop where
  names : level.NamesOperand
  flag : level.letter? 'q' = some (short 'q' quietName .switch)
  noCommand : quietFlag ∉ level.commands

theorem Level.Hushable.program : programLevel.Hushable :=
  ⟨by decide, rfl, by decide⟩

theorem Level.Hushable.audit : auditLevel.Hushable :=
  ⟨by decide, rfl, by decide⟩

theorem Level.Hushable.manifest : manifestLevel.Hushable :=
  ⟨by decide, rfl, by decide⟩

theorem Level.Hushable.explain : explainLevel.Hushable :=
  ⟨by decide, rfl, by decide⟩

theorem Level.Hushable.init : initLevel.Hushable :=
  ⟨by decide, rfl, by decide⟩

open Reading

variable {level : Level} {reading loudEnd quietEnd : Reading}
  {before after : List Text} {loudRest quietRest : Option (Text × List Text)}

theorem Level.Hushable.readArgument (hushable : level.Hushable) :
    reading.readArgument level false quietFlag =
      reading.occur (short 'q' quietName .switch) [] := by
  have form : Form.ofArgument quietFlag = .letters ['q'] := rfl
  simp only [Reading.readArgument, form, Reading.readLetters, hushable.flag]
  cases reading.occur (short 'q' quietName .switch) [] <;> rfl

theorem Level.Hushable.readLevel (hushable : level.Hushable) :
    readLevel level reading false (quietFlag :: after) =
      match reading.occur (short 'q' quietName .switch) [] with
      | .error problem => .error problem
      | .ok next => CommandLine.readLevel level next false after := by
  have noCommand : level.commands.contains quietFlag = false := by
    simpa using hushable.noCommand
  rw [readLevel_cons, noCommand, hushable.readArgument]
  simp only [Bool.and_false, Bool.false_eq_true, if_false]
  rfl

/-- The flag is read on the level, or it is left to the arguments of a
command. -/
theorem readLevel_quietFlag (hushable : level.Hushable)
    (proper : reading.Proper level) (inFront : separator ∉ before)
    (loudReads : readLevel level reading false (before ++ after) =
      .ok (loudEnd, loudRest))
    (quietReads :
      readLevel level reading false (before ++ quietFlag :: after) =
        .ok (quietEnd, quietRest)) :
    (loudEnd.Matches quietEnd ∧ quietRest = loudRest) ∨
      (quietEnd = loudEnd ∧ ∃ name ∈ level.commands, ∃ front,
        separator ∉ front ∧ loudRest = some (name, front ++ after) ∧
        quietRest = some (name, front ++ quietFlag :: after)) := by
  induction before generalizing reading with
  | nil =>
      rw [List.nil_append] at loudReads quietReads
      rw [hushable.readLevel] at quietReads
      split at quietReads
      · cases quietReads
      · next next occurs =>
          left
          exact (matches_of_flag proper rfl occurs).readLevel hushable.names
            proper loudReads quietReads
  | cons argument before ih =>
      rw [List.mem_cons, not_or] at inFront
      obtain ⟨notSeparator, inFront⟩ := inFront
      have form : Form.ofArgument argument ≠ .separator := by
        rw [Ne, ofArgument_eq_separator_iff]
        exact Ne.symm notSeparator
      rw [List.cons_append, readLevel_cons] at loudReads quietReads
      simp only [form, Bool.false_or, decide_false] at loudReads quietReads
      split at loudReads
      · next isCommand =>
          rw [if_pos isCommand] at quietReads
          cases loudReads
          cases quietReads
          right
          refine ⟨rfl, argument, ?_, before, inFront, rfl, rfl⟩
          rw [Bool.and_eq_true, List.contains_iff_mem] at isCommand
          exact isCommand.2
      · next noCommand =>
          rw [if_neg noCommand] at quietReads
          split at loudReads
          · cases loudReads
          · next next reads =>
              rw [reads] at quietReads
              exact ih (proper.readArgument hushable.names reads) inFront
                loudReads quietReads

/-- Once both readings are settled, the quiet one has given the flag and else
the same. -/
theorem Reading.Matches.quieter {loud quiet loudNext quietNext : Reading}
    (matched : loud.Matches quiet) (loudSettles : loud.settle = .ok loudNext)
    (quietSettles : quiet.settle = .ok quietNext) :
    loudNext.given.Quieter quietNext.given := by
  rw [eq_of_settle loudSettles, eq_of_settle quietSettles]
  exact matched.told

theorem Level.quieter_of_read {loud quiet : Occurrences}
    (hushable : level.Hushable) (noCommands : level.commands = [])
    (inFront : separator ∉ before)
    (loudReads : level.read (before ++ after) = .ok loud)
    (quietReads : level.read (before ++ quietFlag :: after) = .ok quiet) :
    loud.Quieter quiet := by
  obtain ⟨loudEnd, loudRest, loudSettled, loudEnds, loudSettles, _, rfl⟩ :=
    read_eq_ok_iff.mp loudReads
  obtain ⟨quietEnd, quietRest, quietSettled, quietEnds, quietSettles, _,
    rfl⟩ := read_eq_ok_iff.mp quietReads
  rcases readLevel_quietFlag hushable (.start level) inFront loudEnds
    quietEnds with here | later
  · exact here.1.quieter loudSettles quietSettles
  · obtain ⟨_, name, isCommand, _⟩ := later
    rw [noCommands] at isCommand
    cases isCommand

/-! ## What a command line asks for -/

section

variable {loud quiet : Occurrences} (quieter : loud.Quieter quiet)

include quieter

theorem Occurrences.Quieter.value? {name : Text} (other : name ≠ quietName) :
    quiet.value? name = loud.value? name := by
  rw [Occurrences.value?, Occurrences.value?, quieter.values name other]

theorem auditOf_quieter : auditOf quiet = auditOf loud := by
  simp +decide only [auditOf, quieter.has, quieter.value?, ne_eq]

theorem manifestOf_quieter : manifestOf quiet = manifestOf loud := by
  simp +decide only [manifestOf, quieter.has, quieter.value?, quieter.values,
    ne_eq]

theorem explainOf_quieter : explainOf quiet = explainOf loud := by
  simp +decide only [explainOf, quieter.value?, ne_eq]

theorem initOf_quieter : initOf quiet = initOf loud := by
  simp +decide only [initOf, quieter.has, quieter.value?, ne_eq]

theorem globalsOf_quieter_before (after : Occurrences) :
    globalsOf quiet after = { globalsOf loud after with quiet := true } := by
  have flag : quiet.has "quiet" = true := quieter.flag
  have count : quiet.count "verbose" = loud.count "verbose" := quieter.count
  simp +decide only [globalsOf, quieter.has, quieter.value?, flag,
    Bool.or_true, GlobalOptions.mk.injEq, and_self, and_true]
  split
  · rfl
  · rw [count]

theorem globalsOf_quieter_after (before : Occurrences) :
    globalsOf before quiet =
      { globalsOf before loud with quiet := true } := by
  have flag : quiet.has "quiet" = true := quieter.flag
  have count : quiet.count "verbose" = loud.count "verbose" := quieter.count
  simp +decide only [globalsOf, quieter.has, quieter.value?, flag,
    Bool.true_or, GlobalOptions.mk.injEq, and_self, and_true]
  split
  · rw [count]
  · rfl

end

/-- Every command has a level without commands that knows the flag, and asks
for the same with the flag as without it. -/
theorem commandLevel?_quieter {name : Text}
    {command : Occurrences → Command}
    (isCommand : commandLevel? name = some (level, command)) :
    level.Hushable ∧ level.commands = [] ∧
      ∀ loud quiet : Occurrences, loud.Quieter quiet →
        command quiet = command loud := by
  rw [commandLevel?] at isCommand
  split at isCommand
  · cases isCommand
    refine ⟨.audit, rfl, fun loud quiet quieter => ?_⟩
    exact congrArg Command.audit (auditOf_quieter quieter)
  · split at isCommand
    · cases isCommand
      refine ⟨.manifest, rfl, fun loud quiet quieter => ?_⟩
      exact congrArg Command.manifest (manifestOf_quieter quieter)
    · split at isCommand
      · cases isCommand
        refine ⟨.explain, rfl, fun loud quiet quieter => ?_⟩
        exact congrArg Command.explain (explainOf_quieter quieter)
      · split at isCommand
        · cases isCommand
          refine ⟨.init, rfl, fun loud quiet quieter => ?_⟩
          exact congrArg Command.init (initOf_quieter quieter)
        · cases isCommand

end CommandLine

open CommandLine

/-- With the flag, the same is asked for in quiet mode. -/
theorem Invocation.eq_of_parse_quietFlag {before after : List Text}
    {loud quiet : Invocation} (inFront : separator ∉ before)
    (loudParses : parse (before ++ after) = .ok loud)
    (quietParses : parse (before ++ quietFlag :: after) = .ok quiet) :
    quiet = { loud with options := { loud.options with quiet := true } } := by
  obtain ⟨loudReading, loudName, loudRest, loudLevel, loudCommand, loudGiven,
    loudSettled, loudReads, isLoud, loudReadsOn, loudSettles, rfl⟩ :=
      parse_eq_ok_iff.mp loudParses
  obtain ⟨quietReading, quietName, quietRest, quietLevel, quietCommand,
    quietGiven, quietSettled, quietReads, isQuiet, quietReadsOn,
    quietSettles, rfl⟩ := parse_eq_ok_iff.mp quietParses
  rcases readLevel_quietFlag .program (.start _) inFront loudReads quietReads
    with here | later
  · obtain ⟨matched, same⟩ := here
    cases same
    cases isLoud.symm.trans isQuiet
    cases loudReadsOn.symm.trans quietReadsOn
    have quieter := matched.quieter loudSettles quietSettles
    exact congrArg (Invocation.mk · _) (globalsOf_quieter_before quieter _)
  · obtain ⟨rfl, name, _, front, inFront, loudSame, quietSame⟩ := later
    cases loudSame
    cases quietSame
    cases isLoud.symm.trans isQuiet
    cases loudSettles.symm.trans quietSettles
    obtain ⟨hushable, noCommands, sameCommand⟩ :=
      commandLevel?_quieter isLoud
    have quieter := Level.quieter_of_read hushable noCommands inFront
      loudReadsOn quietReadsOn
    simp only [globalsOf_quieter_after quieter,
      sameCommand _ _ quieter]

end AccessAudit
