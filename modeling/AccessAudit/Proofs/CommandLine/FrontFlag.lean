import AccessAudit.Proofs.CommandLine.QuietFlag

/-!
# A quiet flag in front

In front of all arguments the quiet flag is always accepted, unless it is
given once more.  The reading with the flag takes the same steps as the one
without it, up to any end that has not been told of the flag.
-/

namespace AccessAudit

namespace CommandLine

namespace Reading

variable {level : Level} {reading next : Reading} {spec : OptionSpec}
  {values : List Text} {argument : Text}

/-- The reading with a quiet flag in front. -/
def flagged (reading : Reading) : Reading :=
  { reading with given := ⟨quietName, []⟩ :: reading.given }

/-- The reading has not been told of a quiet flag. -/
def Silent (reading : Reading) : Prop :=
  reading.told.has quietName = false

/-- What is read without a quiet flag is read with one in front as well. -/
def KeepsFlag (read : Reading → Except UsageProblem Reading) : Prop :=
  ∀ reading next, read reading = .ok next → next.Silent →
    reading.Silent ∧ read reading.flagged = .ok next.flagged

theorem has_flagged {name : Text} (other : name ≠ quietName) :
    reading.flagged.given.has name = reading.given.has name := by
  simp [flagged, Occurrences.has, Ne.symm other]

theorem settleWith_flagged (other : spec.name ≠ quietName)
    (settles : reading.settleWith spec values = .ok next) :
    reading.flagged.settleWith spec values = .ok next.flagged := by
  rw [settleWith, has_flagged other]
  rw [settleWith] at settles
  cases kind : spec.kind with
  | help | version =>
      rw [kind] at settles
      cases settles
  | switch =>
      simp only [kind] at settles ⊢
      split at settles
      · cases settles
      · next isNew =>
          cases settles
          rw [if_neg isNew]
          rfl
  | counter =>
      simp only [kind] at settles
      cases settles
      rfl
  | single rule =>
      simp only [kind] at settles ⊢
      split at settles
      · cases settles
      · next notEmpty =>
          split at settles
          · cases settles
          · next isNew =>
              rw [if_neg notEmpty, if_neg isNew]
              split at settles
              · cases settles
              · cases settles
                rfl
  | list rule isSplit =>
      simp only [kind] at settles ⊢
      split at settles
      · cases settles
      · next notEmpty =>
          rw [if_neg notEmpty]
          split at settles
          · cases settles
          · cases settles
            rfl

theorem settle_flagged (silent : reading.Silent)
    (settles : reading.settle = .ok next) :
    reading.flagged.settle = .ok next.flagged := by
  rw [settle] at settles ⊢
  cases waiting : reading.waiting with
  | none =>
      rw [waiting] at settles
      cases settles
      simp [flagged, waiting]
  | some pair =>
      obtain ⟨spec, values⟩ := pair
      rw [waiting] at settles
      rw [show reading.flagged.waiting = some (spec, values) from waiting]
      have other : spec.name ≠ quietName := by
        intro same
        rw [Silent, told, waiting] at silent
        simp [Occurrences.has_append, Occurrences.has_singleton, same]
          at silent
      exact settleWith_flagged other settles

theorem keepsFlag_occur (spec : OptionSpec) (values : List Text) :
    KeepsFlag (·.occur spec values) := by
  intro reading next occurs silent
  simp only at occurs ⊢
  have told := eq_of_occur occurs
  rw [told, Silent, Reading.told] at silent
  simp only [List.append_nil, Occurrences.has_append,
    Occurrences.has_singleton, Bool.or_eq_false_iff, decide_eq_false_iff_not]
    at silent
  obtain ⟨silent, other⟩ := silent
  refine ⟨silent, ?_⟩
  rw [occur] at occurs ⊢
  split at occurs
  · cases occurs
  · next settles =>
      simp only [settle_flagged silent settles]
      exact settleWith_flagged other occurs

theorem keepsFlag_wait (spec : OptionSpec) (values : List Text) :
    KeepsFlag (·.wait spec values) := by
  intro reading next waits silent
  simp only at waits ⊢
  have told := eq_of_wait waits
  rw [told, Silent, Reading.told] at silent
  simp only [Occurrences.has_append, Occurrences.has_singleton,
    Bool.or_eq_false_iff] at silent
  refine ⟨silent.1, ?_⟩
  rw [wait] at waits ⊢
  split at waits
  · cases waits
  · next settles =>
      cases waits
      simp only [settle_flagged silent.1 settles]
      rfl

theorem keepsFlag_readLong (level : Level) (name : Text)
    (value : Option Text) :
    KeepsFlag (·.readLong level name value) := by
  intro reading next reads silent
  simp only [Reading.readLong] at reads ⊢
  split at reads
  · cases reads
  · split at reads
    · split at reads
      · next takesValue =>
          rw [if_pos takesValue]
          exact keepsFlag_occur _ _ _ _ reads silent
      · cases reads
    · split at reads
      · next takesValue =>
          rw [if_pos takesValue]
          exact keepsFlag_wait _ _ _ _ reads silent
      · next alone =>
          rw [if_neg alone]
          exact keepsFlag_occur _ _ _ _ reads silent

theorem keepsFlag_readLetters (level : Level) (letters : Text) :
    KeepsFlag (·.readLetters level letters) := by
  induction letters with
  | nil =>
      intro reading next reads silent
      cases reads
      exact ⟨silent, rfl⟩
  | cons letter rest ih =>
      intro reading next reads silent
      simp only [Reading.readLetters] at reads ⊢
      split at reads
      · cases reads
      · split at reads
        · next takesValue =>
            rw [if_pos takesValue]
            split at reads
            · exact keepsFlag_wait _ _ _ _ reads silent
            · exact keepsFlag_occur _ _ _ _ reads silent
            · exact keepsFlag_occur _ _ _ _ reads silent
        · next alone =>
            rw [if_neg alone]
            split at reads
            · cases reads
            · next occurs =>
                obtain ⟨between, later⟩ := ih _ _ reads silent
                obtain ⟨start, first⟩ :=
                  keepsFlag_occur _ _ _ _ occurs between
                simp only at first later
                rw [first]
                exact ⟨start, later⟩

theorem keepsFlag_readOperand (level : Level) (afterSeparator : Bool)
    (argument : Text) :
    KeepsFlag (·.readOperand level afterSeparator argument) := by
  intro reading next reads silent
  simp only at reads ⊢
  obtain ⟨spec, isOperand, takes⟩ := readOperand_eq_ok_iff.mp reads
  have flagged : reading.Silent ∧
      Takes spec argument reading.flagged next.flagged := by
    cases takes with
    | more isList isWaiting sameName =>
        refine ⟨?_, .more isList isWaiting sameName⟩
        rw [Silent, told] at silent ⊢
        rw [isWaiting]
        simp only [Occurrences.has_append, Occurrences.has_singleton]
          at silent ⊢
        rw [sameName]
        exact silent
    | first isList other waits =>
        obtain ⟨start, waits⟩ := keepsFlag_wait _ _ _ _ waits silent
        exact ⟨start, .first isList other waits⟩
    | @only waited noList isFree waits =>
        obtain ⟨start, flaggedWaits⟩ := keepsFlag_wait _ _ _ _ waits silent
        have takes : Takes spec argument reading.flagged
            { waited.flagged with hasOperand := true } :=
          .only noList isFree flaggedWaits
        exact ⟨start, takes⟩
  exact ⟨flagged.1, readOperand_eq_ok_iff.mpr ⟨spec, isOperand, flagged.2⟩⟩

theorem keepsFlag_readPlain (level : Level) (argument : Text) :
    KeepsFlag (·.readPlain level argument) := by
  intro reading next reads silent
  simp only [Reading.readPlain] at reads ⊢
  split at reads
  · next spec values isWaiting wants =>
      cases reads
      constructor
      · simpa [Silent, told, isWaiting, Occurrences.has_append,
          Occurrences.has_singleton] using silent
      · have flaggedWaits : reading.flagged.waiting = some (spec, values) :=
          isWaiting
        have flaggedWants : reading.flagged.wantsValue = true := wants
        rw [flaggedWaits, flaggedWants]
        rfl
  · next noValue =>
      have flagged := keepsFlag_readOperand _ _ _ _ _ reads silent
      refine ⟨flagged.1, ?_⟩
      split
      · next isWaiting wants => exact absurd wants (noValue _ _ isWaiting)
      · exact flagged.2

theorem keepsFlag_readArgument (level : Level) (afterSeparator : Bool)
    (argument : Text) :
    KeepsFlag (·.readArgument level afterSeparator argument) := by
  intro reading next reads silent
  simp only [Reading.readArgument] at reads ⊢
  split at reads
  · next isAfter =>
      rw [if_pos isAfter]
      exact keepsFlag_readOperand _ _ _ _ _ reads silent
  · next notAfter =>
      rw [if_neg notAfter]
      split at reads
      · cases reads
        exact ⟨silent, rfl⟩
      · exact keepsFlag_readLong _ _ _ _ _ reads silent
      · exact keepsFlag_readLetters _ _ _ _ reads silent
      · exact keepsFlag_readPlain _ _ _ _ reads silent

theorem readLevel_flagged {afterSeparator : Bool} {arguments : List Text}
    {rest : Option (Text × List Text)}
    (reads : readLevel level reading afterSeparator arguments =
      .ok (next, rest))
    (silent : next.Silent) :
    reading.Silent ∧
      readLevel level reading.flagged afterSeparator arguments =
        .ok (next.flagged, rest) := by
  induction arguments generalizing reading afterSeparator with
  | nil =>
      cases reads
      exact ⟨silent, rfl⟩
  | cons argument later ih =>
      rw [readLevel_cons] at reads ⊢
      have sameWanting : reading.flagged.wantsValue = reading.wantsValue := rfl
      rw [sameWanting]
      split at reads
      · next isCommand =>
          rw [if_pos isCommand]
          cases reads
          exact ⟨silent, rfl⟩
      · next noCommand =>
          rw [if_neg noCommand]
          split at reads
          · cases reads
          · next readsOne =>
              obtain ⟨between, readsOn⟩ := ih reads
              obtain ⟨start, readsFlagged⟩ :=
                keepsFlag_readArgument _ _ _ _ _ readsOne between
              simp only at readsFlagged
              rw [readsFlagged]
              exact ⟨start, readsOn⟩

end Reading

end CommandLine

open CommandLine

/-- A command line that does not ask for quiet mode may do so in front. -/
theorem Invocation.exists_parse_quietFlag {arguments : List Text}
    {loud : Invocation} (parses : parse arguments = .ok loud)
    (isLoud : loud.options.quiet = false) :
    ∃ quiet, parse (quietFlag :: arguments) = .ok quiet := by
  obtain ⟨reading, name, rest, level, command, given, settled, reads,
    isCommand, readsOn, settles, rfl⟩ := parse_eq_ok_iff.mp parses
  have silent : reading.Silent := by
    rw [Reading.eq_of_settle settles] at isLoud
    exact (Bool.or_eq_false_iff.mp isLoud).2
  obtain ⟨_, reads⟩ := Reading.readLevel_flagged reads silent
  refine ⟨_, parse_eq_ok_iff.mpr ⟨_, name, rest, level, command, given, _, ?_,
    isCommand, readsOn, Reading.settle_flagged silent settles, rfl⟩⟩
  rw [Level.Hushable.program.readLevel]
  exact reads

end AccessAudit
