import Mathlib.Data.List.TakeWhile
import AccessAudit.Proofs.CommandLine.Acceptance

/-!
# How a command line is written

An option is written with its name or its letter, and its value follows an
equals sign, stands behind the letter, or is the next argument.  Letters may
stand together, and after the separator there are only operands.  The relation
`Line` says all this without a reading, and reading a level accepts the lines
whose occurrences are allowed, and no others.
-/

namespace AccessAudit

namespace CommandLine

/-- An argument that does not look like an option. -/
def Plain (argument : Text) : Prop :=
  argument = ['-'] ∨ argument.head? ≠ some '-'

instance (argument : Text) : Decidable (Plain argument) :=
  inferInstanceAs (Decidable (_ ∨ _))

/-- The ways to write an option, alone or with its value. -/
inductive Spells (level : Level) : List Text → OptionSpec → List Text → Prop
  | name {name spec} (isOption : level.option? name = some spec)
      (alone : spec.kind.takesValue = false) :
      Spells level ['-' :: '-' :: name] spec []
  | nameEquals {name spec} (isOption : level.option? name = some spec)
      (valued : spec.kind.takesValue = true) (value : Text) :
      Spells level ['-' :: '-' :: (name ++ '=' :: value)] spec [value]
  | nameThen {name spec value} (isOption : level.option? name = some spec)
      (valued : spec.kind.takesValue = true) (plain : Plain value) :
      Spells level ['-' :: '-' :: name, value] spec [value]
  | letter {letter spec} (isLetter : level.letter? letter = some spec)
      (alone : spec.kind.takesValue = false) :
      Spells level [['-', letter]] spec []
  | letterEquals {letter spec} (isLetter : level.letter? letter = some spec)
      (valued : spec.kind.takesValue = true) (value : Text) :
      Spells level ['-' :: letter :: '=' :: value] spec [value]
  | letterWith {letter spec value}
      (isLetter : level.letter? letter = some spec)
      (valued : spec.kind.takesValue = true) (nonempty : value ≠ [])
      (noEquals : value.head? ≠ some '=') :
      Spells level ['-' :: letter :: value] spec [value]
  | letterThen {letter spec value}
      (isLetter : level.letter? letter = some spec)
      (valued : spec.kind.takesValue = true) (plain : Plain value) :
      Spells level [['-', letter], value] spec [value]

/-- Operands after the separator, whatever they look like. -/
inductive Trailing (level : Level) : List Text → Occurrences → Prop
  | nil : Trailing level [] []
  | cons {spec argument rest given} (isOperand : level.operand = some spec)
      (trailing : Trailing level rest given) :
      Trailing level (argument :: rest) (⟨spec.name, [argument]⟩ :: given)

/-- The arguments of a level, up to their end or a command, and what is given
in them. -/
inductive Line (level : Level) :
    List Text → Option (Text × List Text) → Occurrences → Prop
  | done : Line level [] none []
  | command {name} (isCommand : name ∈ level.commands) (rest : List Text) :
      Line level (name :: rest) (some (name, rest)) []
  | separated {operands given} (trailing : Trailing level operands given) :
      Line level (separator :: operands) none given
  | option {words spec values rest stop given}
      (spells : Spells level words spec values)
      (line : Line level rest stop given) :
      Line level (words ++ rest) stop (⟨spec.name, values⟩ :: given)
  /-- More letters stand behind that of an option without a value. -/
  | together {letter spec next letters rest stop given}
      (isLetter : level.letter? letter = some spec)
      (alone : spec.kind.takesValue = false) (isNoHyphen : next ≠ '-')
      (line : Line level (('-' :: next :: letters) :: rest) stop given) :
      Line level (('-' :: letter :: next :: letters) :: rest) stop
        (⟨spec.name, []⟩ :: given)
  | operand {spec argument rest stop given}
      (isOperand : level.operand = some spec) (plain : Plain argument)
      (line : Line level rest stop given) :
      Line level (argument :: rest) stop
        (⟨spec.name, [argument]⟩ :: given)

def OptionKind.isList : OptionKind → Bool
  | .list _ _ => true
  | _ => false

/-- A level on which the ways to write something do not get mixed up, and
nothing has several values. -/
structure Level.Regular (level : Level) : Prop where
  names : level.NamesOperand
  distinct : level.Distinct
  spelled : ∀ spec ∈ level.options,
    spec.name ≠ [] ∧ '=' ∉ spec.name ∧ spec.letter ≠ some '-'
  noLists : ∀ spec ∈ level.specs, spec.kind.isList = false
  operand : ∀ operand ∈ level.operand,
    operand.kind.takesValue = true ∧ level.commands = []
  commands : ∀ command ∈ level.commands, Plain command

theorem Level.Regular.program : programLevel.Regular :=
  ⟨by decide, by decide, by decide, by decide, by decide, by decide⟩

theorem Level.Regular.audit : auditLevel.Regular :=
  ⟨by decide, by decide, by decide, by decide, by decide, by decide⟩

variable {level : Level} {spec : OptionSpec} {name : Text} {letter : Char}

theorem Level.option?_eq_some (found : level.option? name = some spec) :
    spec ∈ level.options ∧ spec.name = name :=
  ⟨List.mem_of_find?_eq_some found, by simpa using List.find?_some found⟩

theorem Level.letter?_eq_some (found : level.letter? letter = some spec) :
    spec ∈ level.options ∧ spec.letter = some letter :=
  ⟨List.mem_of_find?_eq_some found, by simpa using List.find?_some found⟩

theorem Level.Regular.exists_single (regular : level.Regular)
    (isSpec : spec ∈ level.specs) (valued : spec.kind.takesValue = true) :
    ∃ rule, spec.kind = .single rule := by
  have noList := regular.noLists spec isSpec
  obtain ⟨name, letter, kind⟩ := spec
  cases kind with
  | help | version | switch | counter => cases valued
  | single rule => exact ⟨rule, rfl⟩
  | list rule isSplit => cases noList

theorem Level.Regular.settled (regular : level.Regular)
    (isSpec : spec ∈ level.specs) (valued : spec.kind.takesValue = true)
    (values : List Text) : spec.settled values = values := by
  obtain ⟨rule, isSingle⟩ := regular.exists_single isSpec valued
  rw [OptionSpec.settled, isSingle]

/-! ## What is given on a line -/

theorem Spells.mem_options {words values : List Text}
    (spells : Spells level words spec values) : spec ∈ level.options := by
  cases spells with
  | name isOption | nameEquals isOption | nameThen isOption =>
      exact (Level.option?_eq_some isOption).1
  | letter isLetter | letterEquals isLetter | letterWith isLetter
  | letterThen isLetter => exact (Level.letter?_eq_some isLetter).1

theorem Spells.exists_value {words values : List Text}
    (spells : Spells level words spec values)
    (valued : spec.kind.takesValue = true) : ∃ value, values = [value] := by
  cases spells with
  | name _ alone | letter _ alone => cases alone.symm.trans valued
  | nameEquals | nameThen | letterEquals | letterWith | letterThen =>
      exact ⟨_, rfl⟩

/-- An occurrence of something that is known on the level, with one value if
it takes one. -/
def Level.Knows (level : Level) (occurrence : Occurrence) : Prop :=
  ∃ spec ∈ level.specs, spec.name = occurrence.name ∧
    (spec.kind.takesValue = true → ∃ value, occurrence.values = [value])

theorem Trailing.knows {arguments : List Text} {given : Occurrences}
    (trailing : Trailing level arguments given) :
    ∀ occurrence ∈ given, level.Knows occurrence := by
  induction trailing with
  | nil => nofun
  | @cons spec argument rest given isOperand _ ih =>
      rw [List.forall_mem_cons]
      exact ⟨⟨spec, Level.mem_specs_of_operand isOperand, rfl,
        fun _ => ⟨argument, rfl⟩⟩, ih⟩

theorem Line.knows {arguments : List Text} {given : Occurrences}
    {stop : Option (Text × List Text)}
    (line : Line level arguments stop given) :
    ∀ occurrence ∈ given, level.Knows occurrence := by
  induction line with
  | done | command => nofun
  | separated trailing => exact trailing.knows
  | option spells _ ih =>
      rw [List.forall_mem_cons]
      exact ⟨⟨_, Level.mem_specs_of_option spells.mem_options, rfl,
        spells.exists_value⟩, ih⟩
  | together isLetter alone _ _ ih =>
      rw [List.forall_mem_cons]
      have isOption := (Level.letter?_eq_some isLetter).1
      exact ⟨⟨_, Level.mem_specs_of_option isOption, rfl,
        fun valued => nomatch alone.symm.trans valued⟩, ih⟩
  | @operand spec argument _ _ _ isOperand _ _ ih =>
      rw [List.forall_mem_cons]
      exact ⟨⟨spec, Level.mem_specs_of_operand isOperand, rfl,
        fun _ => ⟨argument, rfl⟩⟩, ih⟩

/-! ## Forms of arguments -/

/-- A value, if there is one, behind an equals sign. -/
def equalsValue : Option Text → Text
  | none => []
  | some value => '=' :: value

/-- A text is cut at its first equals sign. -/
theorem splitLong_eq_iff {text name : Text} {value : Option Text} :
    splitLong text = (name, value) ↔
      '=' ∉ name ∧ text = name ++ equalsValue value := by
  rw [splitLong]
  constructor
  · intro cuts
    have parts := List.takeWhile_append_dropWhile
      (p := fun char : Char => decide (char ≠ '=')) (l := text)
    have before : '=' ∉ text.takeWhile fun char => decide (char ≠ '=') := by
      intro member
      simpa using List.mem_takeWhile_imp member
    split at cuts
    · next nothing =>
        cases cuts
        rw [nothing, List.append_nil] at parts
        rw [parts] at before
        exact ⟨before, (List.append_nil _).symm⟩
    · next head rest something =>
        cases cuts
        have stops := List.head?_dropWhile_not
          (fun char : Char => decide (char ≠ '=')) text
        rw [something] at stops parts
        have isEquals : head = '=' := by simpa using stops
        subst isEquals
        exact ⟨before, parts.symm⟩
  · rintro ⟨noEquals, rfl⟩
    have all : ∀ char ∈ name, decide (char ≠ '=') = true := by
      intro char member
      exact decide_eq_true fun same => noEquals (same ▸ member)
    rw [List.dropWhile_append_of_pos all, List.takeWhile_append_of_pos all]
    cases value <;> simp [equalsValue]

theorem ofArgument_long {rest : Text} (nonempty : rest ≠ []) :
    Form.ofArgument ('-' :: '-' :: rest) =
      .long (splitLong rest).1 (splitLong rest).2 := by
  cases rest with
  | nil => exact absurd rfl nonempty
  | cons head tail => rfl

theorem ofArgument_letters {letter : Char} (isNoHyphen : letter ≠ '-')
    (rest : Text) :
    Form.ofArgument ('-' :: letter :: rest) = .letters (letter :: rest) := by
  rw [Form.ofArgument]
  · exact fun isHyphen _ => isNoHyphen isHyphen
  · exact fun isHyphen => isNoHyphen isHyphen

theorem eq_of_ofArgument_long {argument name : Text} {value : Option Text}
    (form : Form.ofArgument argument = .long name value) :
    argument = '-' :: '-' :: (name ++ equalsValue value) := by
  rw [Form.ofArgument.eq_def] at form
  split at form
  · cases form
  · next rest _ =>
      cases form
      rw [← (splitLong_eq_iff.mp rfl).2]
  · cases form
  · cases form

theorem eq_of_ofArgument_letters {argument letters : Text}
    (form : Form.ofArgument argument = .letters letters) :
    ∃ letter rest, letters = letter :: rest ∧ argument = '-' :: letters := by
  rw [Form.ofArgument.eq_def] at form
  split at form
  · cases form
  · cases form
  · next letter rest _ _ =>
      cases form
      exact ⟨letter, rest, rfl, rfl⟩
  · cases form

theorem ofArgument_eq_plain_iff {argument : Text} :
    Form.ofArgument argument = .plain ↔ Plain argument := by
  rw [Form.ofArgument.eq_def]
  split
  · simp [Plain]
  · simp [Plain]
  · simp [Plain]
  · next noSeparator noLong noLetters =>
      rw [iff_true_left rfl]
      by_cases isHyphen : argument.head? = some '-'
      · obtain ⟨rest, rfl⟩ := List.head?_eq_some_iff.mp isHyphen
        cases rest with
        | nil => exact Or.inl rfl
        | cons second others => exact absurd rfl (noLetters second others)
      · exact Or.inr isHyphen

theorem ofArgument_name (regular : level.Regular)
    (isOption : level.option? name = some spec) :
    Form.ofArgument ('-' :: '-' :: name) = .long name none := by
  obtain ⟨member, rfl⟩ := Level.option?_eq_some isOption
  obtain ⟨nonempty, noEquals, -⟩ := regular.spelled spec member
  have cut : splitLong spec.name = (spec.name, none) :=
    splitLong_eq_iff.mpr ⟨noEquals, (List.append_nil _).symm⟩
  rw [ofArgument_long nonempty, cut]

theorem ofArgument_nameEquals (regular : level.Regular)
    (isOption : level.option? name = some spec) (value : Text) :
    Form.ofArgument ('-' :: '-' :: (name ++ '=' :: value)) =
      .long name (some value) := by
  obtain ⟨member, rfl⟩ := Level.option?_eq_some isOption
  obtain ⟨-, noEquals, -⟩ := regular.spelled spec member
  have cut : splitLong (spec.name ++ '=' :: value) =
      (spec.name, some value) :=
    splitLong_eq_iff.mpr ⟨noEquals, rfl⟩
  rw [ofArgument_long (by simp), cut]

theorem isNoHyphen_of_letter (regular : level.Regular)
    (isLetter : level.letter? letter = some spec) : letter ≠ '-' := by
  obtain ⟨member, isItsLetter⟩ := Level.letter?_eq_some isLetter
  rintro rfl
  exact (regular.spelled spec member).2.2 isItsLetter

theorem ofArgument_letter (regular : level.Regular)
    (isLetter : level.letter? letter = some spec) (letters : Text) :
    Form.ofArgument ('-' :: letter :: letters) =
      .letters (letter :: letters) :=
  ofArgument_letters (isNoHyphen_of_letter regular isLetter) letters

end CommandLine

end AccessAudit
