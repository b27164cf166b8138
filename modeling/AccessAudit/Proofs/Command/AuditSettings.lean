import AccessAudit.Command.Audit
import AccessAudit.Proofs.CommandLine.Recognition
import AccessAudit.Proofs.Config.Overlay

/-!
# The settings of an audit

An argument that is given decides its setting, and the configuration decides
the others.  The root falls back to the directory of the manifest, wherever
the manifest comes from, and reports that are asked for are never dropped.
-/

namespace AccessAudit

open CommandLine

/-- The arguments are a line of the program up to the audit command, and a
line of the command after it. -/
def AuditLine (arguments : List Text) (before after : Occurrences) : Prop :=
  ∃ rest, Line programLevel arguments (some ("audit".toList, rest)) before ∧
    Line auditLevel rest none after

/-- A setting is the value of an option that occurs, and else the one that is
configured. -/
structure Chosen (given : Occurrences) (name configured chosen : Text) :
    Prop where
  occurs : ∀ values, ⟨name, values⟩ ∈ given → values = [chosen]
  absent : given.has name = false → chosen = configured

/-- A report goes to the value of an option that occurs, and else to where it
is configured to go, if anywhere. -/
structure ReportChosen (given : Occurrences) (name : Text)
    (configured chosen : Option Text) : Prop where
  occurs : ∀ values, ⟨name, values⟩ ∈ given →
    ∃ path, values = [path] ∧ chosen = some path
  absent : given.has name = false → chosen = configured

/-- The root is the value of its option if that occurs, and else the
fallback. -/
structure RootChosen (given : Occurrences) (fallback root : Bytes) :
    Prop where
  occurs : ∀ values, ⟨"root", values⟩ ∈ given →
    ∃ value : Text, values = [value] ∧ root = value
  absent : given.has "root" = false → root = fallback

/-- The parent directory of a manifest, or the current one. -/
inductive Beside (manifest : Text) : Bytes → Prop
  | parent {directory} (isParent : Path.parent? manifest = some directory)
      (nonempty : directory ≠ []) : Beside manifest directory
  | current (noParent : ∀ directory, Path.parent? manifest = some directory →
      directory = []) : Beside manifest [Path.dot]

/-- The settings are what is given for the audit, laid over the
configuration. -/
structure AuditSettings.Merges (given : Occurrences) (config : Config)
    (settings : AuditSettings) : Prop where
  manifest : Chosen given "manifest" config.manifest.path settings.manifest
  rootConfigured : ∀ root, config.manifest.root = some root →
    RootChosen given root settings.root
  rootBeside : config.manifest.root = none → ∃ directory,
    Beside settings.manifest directory ∧
      RootChosen given directory settings.root
  noReports : given.has "no-reports" = true →
    given.has "csv" = false ∧ given.has "summary" = false ∧
      settings.csv = none ∧ settings.summary = none
  reports : given.has "no-reports" = false →
    ReportChosen given "csv" config.output.csv settings.csv ∧
      ReportChosen given "summary" config.output.summary settings.summary
  strict : settings.strict = true ↔
    config.manifest.strictLineNumbers = true ∧
      given.has "lenient-manifest" = false

theorem beside_directoryOf (manifest : Text) :
    Beside manifest (AuditSettings.directoryOf manifest) := by
  simp only [AuditSettings.directoryOf]
  split
  · next first rest isParent => exact .parent isParent (List.cons_ne_nil _ _)
  · next noParent =>
      apply Beside.current
      intro directory isParent
      cases directory with
      | nil => rfl
      | cons first rest => exact absurd isParent (noParent first rest)

/-! ## Values of options -/

namespace CommandLine

variable {given : Occurrences} {name : Text} {values : List Text}

theorem Occurrences.values_eq_nil (absent : given.has name = false) :
    given.values name = [] := by
  rw [values, List.flatMap_eq_nil_iff]
  intro occurrence member
  obtain ⟨isGiven, isNamed⟩ := List.mem_filter.mp member
  exact absurd isNamed (List.any_eq_false.mp absent occurrence isGiven)

/-- What is given once has the values of that occurrence. -/
theorem Occurrences.values_of_mem (member : ⟨name, values⟩ ∈ given)
    (once : given.count name ≤ 1) : given.values name = values := by
  obtain ⟨front, back, rfl⟩ := List.append_of_mem member
  have whole : front ++ ⟨name, values⟩ :: back =
      front ++ ([⟨name, values⟩] ++ back) := rfl
  rw [whole] at once ⊢
  simp only [count_append, count_singleton, if_true] at once
  have inFront : has front name = false :=
    has_eq_false_iff_count.mpr (by omega)
  have behind : has back name = false :=
    has_eq_false_iff_count.mpr (by omega)
  simp only [values_append, values_singleton, values_eq_nil inFront,
    values_eq_nil behind, if_true, List.nil_append, List.append_nil]

theorem Occurrences.value?_of_absent (absent : given.has name = false) :
    given.value? name = none := by
  rw [value?, values_eq_nil absent]
  rfl

/-- An option with a value has one where it occurs on a line where all
fits. -/
theorem Line.value?_of_mem {level : Level} {arguments : List Text}
    {stop : Option (Text × List Text)} (distinct : level.Distinct)
    (line : Line level arguments stop given) (fits : level.Fits given)
    {spec : OptionSpec} (isSpec : spec ∈ level.specs) {rule : ValueRule}
    (isSingle : spec.kind = .single rule)
    (member : ⟨spec.name, values⟩ ∈ given) :
    ∃ value, values = [value] ∧ given.value? spec.name = some value := by
  obtain ⟨other, isOther, sameName, valued⟩ := line.knows _ member
  cases distinct spec isSpec other isOther sameName
  obtain ⟨value, rfl⟩ := valued (by rw [isSingle]; rfl)
  have once : given.count spec.name ≤ 1 := by
    have fitsSpec := fits spec isSpec
    rw [OptionSpec.Fits, isSingle] at fitsSpec
    exact fitsSpec.1
  refine ⟨value, rfl, ?_⟩
  rw [Occurrences.value?, Occurrences.values_of_mem member once]
  rfl

end CommandLine

/-! ## Command lines of the audit -/

variable {given : Occurrences}

theorem commandLevel?_audit {name : Text} {level : Level}
    {command : Occurrences → Command} {given : Occurrences}
    {arguments : AuditArguments}
    (isCommand : commandLevel? name = some (level, command))
    (isAudit : command given = .audit arguments) :
    name = "audit".toList ∧ level = auditLevel ∧ auditOf given = arguments := by
  rw [commandLevel?] at isCommand
  split at isCommand
  · next isName =>
      cases isCommand
      exact ⟨isName, rfl, Command.audit.inj isAudit⟩
  · split at isCommand
    · cases isCommand
      cases isAudit
    · split at isCommand
      · cases isCommand
        cases isAudit
      · split at isCommand
        · cases isCommand
          cases isAudit
        · cases isCommand

theorem AuditSettings.root_resolve (arguments : AuditArguments)
    (config : Config) :
    (resolve arguments config).root =
      (arguments.root.map Utf8.encode).getD
        ((config.manifest.root.map Utf8.encode).getD
          (directoryOf (resolve arguments config).manifest)) := by
  simp only [resolve]
  cases arguments.root <;> cases config.manifest.root <;> rfl

theorem CommandLine.Line.merges {arguments : List Text}
    (line : Line auditLevel arguments none given)
    (allows : auditLevel.Allows given) (config : Config) :
    AuditSettings.Merges given config
      (AuditSettings.resolve (auditOf given) config) := by
  have occurs {name : Text} (isSpec : long name (.single .path) ∈
      auditLevel.specs) (values : List Text)
      (member : ⟨name, values⟩ ∈ given) :
      ∃ value, values = [value] ∧ given.value? name = some value :=
    line.value?_of_mem Level.Regular.audit.distinct allows.fits isSpec rfl
      member
  have chosen {name : Text} (isSpec : long name (.single .path) ∈
      auditLevel.specs) (configured : Text) :
      Chosen given name configured
        ((given.value? name).getD configured) := by
    constructor
    · intro values member
      obtain ⟨value, rfl, found⟩ := occurs isSpec values member
      rw [found, Option.getD_some]
    · intro absent
      rw [Occurrences.value?_of_absent absent, Option.getD_none]
  have report {name : Text} (isSpec : long name (.single .path) ∈
      auditLevel.specs) (configured : Option Text) :
      ReportChosen given name configured
        ((given.value? name).or configured) := by
    constructor
    · intro values member
      obtain ⟨value, rfl, found⟩ := occurs isSpec values member
      exact ⟨value, rfl, by rw [found, Option.some_or]⟩
    · intro absent
      rw [Occurrences.value?_of_absent absent, Option.none_or]
  have chosenRoot (fallback : Bytes) : RootChosen given fallback
      (((given.value? "root").map Utf8.encode).getD fallback) := by
    constructor
    · intro values member
      obtain ⟨value, rfl, found⟩ := occurs (by decide) values member
      exact ⟨value, rfl, by rw [found, Option.map_some, Option.getD_some]⟩
    · intro absent
      rw [Occurrences.value?_of_absent absent, Option.map_none,
        Option.getD_none]
  refine ⟨chosen (by decide) _, ?_, ?_, ?_, ?_, ?_⟩
  · intro root isRoot
    rw [AuditSettings.root_resolve, isRoot]
    exact chosenRoot root
  · intro noRoot
    rw [AuditSettings.root_resolve, noRoot]
    exact ⟨_, beside_directoryOf _, chosenRoot _⟩
  · intro noReports
    exact ⟨allows.apart _ _ (by decide) noReports,
      allows.apart _ _ (by decide) noReports,
      if_pos noReports, if_pos noReports⟩
  · intro reports
    have wanted := Bool.eq_false_iff.mp reports
    have csv : (AuditSettings.resolve (auditOf given) config).csv =
        (given.value? "csv").or config.output.csv := if_neg wanted
    have summary : (AuditSettings.resolve (auditOf given) config).summary =
        (given.value? "summary").or config.output.summary := if_neg wanted
    rw [csv, summary]
    exact ⟨report (by decide) _, report (by decide) _⟩
  · simp [AuditSettings.resolve, auditOf]

theorem Invocation.exists_of_parse_audit {arguments : List Text}
    {options : GlobalOptions} {audit : AuditArguments}
    (parses : parse arguments = .ok ⟨options, .audit audit⟩) :
    ∃ reading rest given settled,
      readLevel programLevel {} false arguments =
        .ok (reading, some ("audit".toList, rest)) ∧
      reading.settle = .ok settled ∧ auditLevel.read rest = .ok given ∧
      auditOf given = audit := by
  obtain ⟨reading, name, rest, level, command, given, settled, reads,
    isCommand, readsOn, settles, same⟩ := parse_eq_ok_iff.mp parses
  obtain ⟨-, isAudit⟩ := Invocation.mk.inj same
  obtain ⟨rfl, rfl, isGiven⟩ := commandLevel?_audit isCommand isAudit.symm
  exact ⟨reading, rest, given, settled, reads, settles, readsOn, isGiven⟩

/-- An audit is accepted exactly if its command line is written with
occurrences that each level allows. -/
theorem Invocation.exists_parse_audit_iff (arguments : List Text) :
    (∃ options audit, parse arguments = .ok ⟨options, .audit audit⟩) ↔
      ∃ before after, AuditLine arguments before after ∧
        programLevel.Fits before ∧ auditLevel.Allows after := by
  constructor
  · rintro ⟨options, audit, parses⟩
    obtain ⟨reading, rest, after, settled, reads, settles, readsOn, -⟩ :=
      exists_of_parse_audit parses
    obtain ⟨line, fits⟩ := (readLevel_settle_iff .program).mp
      ⟨reading, reads, settled, settles, rfl⟩
    obtain ⟨lineOn, allows⟩ :=
      (Level.read_eq_ok_iff_line .audit rfl).mp readsOn
    exact ⟨settled.given, after, ⟨rest, line, lineOn⟩, fits, allows⟩
  · rintro ⟨before, after, ⟨rest, line, lineOn⟩, fits, allows⟩
    obtain ⟨reading, reads, settled, settles, -⟩ :=
      (readLevel_settle_iff .program).mpr ⟨line, fits⟩
    have readsOn :=
      (Level.read_eq_ok_iff_line .audit rfl).mpr ⟨lineOn, allows⟩
    exact ⟨_, _, parse_eq_ok_iff.mpr ⟨reading, _, rest, auditLevel,
      .audit ∘ auditOf, after, settled, reads, rfl, readsOn, settles, rfl⟩⟩

/-- However a line is taken apart, the audit is told what is written on it. -/
theorem AuditLine.given_eq {arguments : List Text}
    {before after : Occurrences} (line : AuditLine arguments before after)
    {options : GlobalOptions} {audit : AuditArguments}
    (parses : Invocation.parse arguments = .ok ⟨options, .audit audit⟩) :
    auditOf after = audit ∧ auditLevel.Allows after := by
  obtain ⟨reading, rest, given, settled, reads, settles, readsOn, isGiven⟩ :=
    Invocation.exists_of_parse_audit parses
  obtain ⟨lineRest, line, lineOn⟩ := line
  obtain ⟨sameStop, -⟩ := line.given_eq .program reads settles
  cases sameStop
  obtain ⟨-, allows⟩ := (Level.read_eq_ok_iff_line .audit rfl).mp readsOn
  obtain ⟨final, stop, ended, ends, settlesOn, -, rfl⟩ :=
    Level.read_eq_ok_iff.mp readsOn
  obtain ⟨-, rfl⟩ := lineOn.given_eq .audit ends settlesOn
  exact ⟨isGiven, allows⟩

/-- With both reports configured, and not turned off, none is dropped. -/
theorem AuditSettings.exists_reports {arguments : AuditArguments}
    {config : Config} (named : config.NamesReports)
    (reports : arguments.noReports = false) :
    ∃ csv summary, (resolve arguments config).csv = some csv ∧
      (resolve arguments config).summary = some summary := by
  obtain ⟨⟨csv, isCsv⟩, summary, isSummary⟩ := named
  refine ⟨arguments.csv.getD csv, arguments.summary.getD summary, ?_, ?_⟩
  · simp only [resolve, reports, isCsv]
    cases arguments.csv <;> rfl
  · simp only [resolve, reports, isSummary]
    cases arguments.summary <;> rfl

/-- Arguments of an audit win over the configuration.  What an accepted
command line gives is what is written on it, in whatever order and spelling,
and each setting is the value of its option, or what is configured for it if
the option does not occur.  A configuration that is loaded from anywhere names
both reports, so they are written unless the arguments say otherwise. -/
theorem arguments_override_config (arguments : List Text) :
    ((∃ options audit, Invocation.parse arguments =
      .ok ⟨options, .audit audit⟩) ↔
      ∃ before after, AuditLine arguments before after ∧
        programLevel.Fits before ∧ auditLevel.Allows after) ∧
    ∀ before after, AuditLine arguments before after →
      ∀ options audit, Invocation.parse arguments =
        .ok ⟨options, .audit audit⟩ → ∀ config,
          let settings := AuditSettings.resolve audit config
          AuditSettings.Merges after config settings ∧
            (config.Loaded → after.has "no-reports" = false →
              ∃ csv summary, settings.csv = some csv ∧
                settings.summary = some summary) := by
  refine ⟨Invocation.exists_parse_audit_iff arguments, ?_⟩
  intro before after line options audit parses config settings
  obtain ⟨rfl, allows⟩ := line.given_eq parses
  obtain ⟨rest, -, lineOn⟩ := line
  refine ⟨lineOn.merges allows config, fun loaded reports => ?_⟩
  exact AuditSettings.exists_reports loaded.namesReports reports

theorem arguments_override_config_of_given_manifest :
    let arguments : List Text :=
      ["-v", "audit", "--csv=a.csv", "lists/b.txt", "--lenient-manifest"]
    let after : Occurrences := [⟨"csv", ["a.csv"]⟩,
      ⟨"manifest", ["lists/b.txt"]⟩, ⟨"lenient-manifest", []⟩]
    let settings : AuditSettings :=
      ⟨"lists/b.txt", "lists", false, some "a.csv", some "rbac_summary.txt"⟩
    AuditLine arguments [⟨"verbose", []⟩] after ∧
      ∃ options audit,
        Invocation.parse arguments = .ok ⟨options, .audit audit⟩ ∧
          AuditSettings.resolve audit {} = settings ∧
          AuditSettings.Merges after {} settings ∧
          ({} : Config).Loaded := by
  intro arguments after settings
  have verbose : Spells programLevel ["-v"]
      (short 'v' "verbose" .counter) [] := .letter rfl rfl
  have csv : Spells auditLevel ["--csv=a.csv"]
      (long "csv" (.single .path)) ["a.csv"] :=
    @Spells.nameEquals auditLevel "csv" _ rfl rfl "a.csv"
  have lenient : Spells auditLevel ["--lenient-manifest"]
      (long "lenient-manifest" .switch) [] := .name rfl rfl
  have line : AuditLine arguments [⟨"verbose", []⟩] after :=
    ⟨_, .option verbose (.command (by decide) _), .option csv
      (.operand rfl (by decide) (.option lenient .done))⟩
  obtain ⟨_, merges⟩ := arguments_override_config arguments
  have loaded : ({} : Config).Loaded :=
    @Config.Loaded.usual _ (.ofFiles [] none) rfl
  have merged := merges _ _ line _ _ rfl {}
  exact ⟨line, _, _, rfl, rfl, merged.1, loaded⟩

end AccessAudit
