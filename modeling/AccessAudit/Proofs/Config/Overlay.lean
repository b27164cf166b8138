import AccessAudit.Config.Load
import AccessAudit.Proofs.Config.Typing

/-!
# Documents over the defaults

A configuration is the defaults with the settings of a document laid over
them, each for itself.  Each key of a section has a default, and so has the
section as a whole.  They agree, so a document that says more only by an empty
section says the same, and so does one with an unknown key more if the numbers
under it can be held.
-/

namespace AccessAudit

namespace Config

open Toml (Document Value)

/-- A setting is what is given for it, or else the default. -/
inductive Settled {α β : Type} (given : Option Value) (write : β → Value)
    (hold : β → α) (standard : α) : α → Prop
  | given {value : β} (isGiven : given = some (write value)) :
      Settled given write hold standard (hold value)
  | standard (isMissing : given = none) :
      Settled given write hold standard standard

/-- What a document gives for the version. -/
def givenVersion (document : Document) : Option Value :=
  document.lookup "version".toList

/-- The entries of a section of a document; a missing section has none. -/
def SectionType.entriesIn (type : SectionType) (document : Document) :
    List (Text × Value) :=
  ((document.lookup type.name).bind type.entries?).getD []

/-- What a document gives for a key of a section. -/
def SectionType.given (type : SectionType) (document : Document)
    (key : Text) : Option Value :=
  (type.entriesIn document).lookup key

/-- An array of strings. -/
def writeTexts (texts : List Text) : Value :=
  .array (texts.map .string)

/-- Each setting of the configuration is what the document gives for it, or
else the default. -/
structure Overlays (document : Document) (config : Config) : Prop where
  version : Settled (givenVersion document) Value.string some
    ({} : Config).version config.version
  manifestPath : Settled (manifestSection.given document "path")
    Value.string id ({} : Config).manifest.path config.manifest.path
  strictLineNumbers :
    Settled (manifestSection.given document "strict_line_numbers")
      Value.boolean id ({} : Config).manifest.strictLineNumbers
      config.manifest.strictLineNumbers
  root : Settled (manifestSection.given document "root")
    Value.string some ({} : Config).manifest.root config.manifest.root
  csv : Settled (outputSection.given document "csv")
    Value.string some ({} : Config).output.csv config.output.csv
  summary : Settled (outputSection.given document "summary")
    Value.string some ({} : Config).output.summary config.output.summary
  roots : Settled (scanSection.given document "roots")
    writeTexts id ({} : Config).scan.roots config.scan.roots
  extensions : Settled (scanSection.given document "extensions")
    writeTexts id ({} : Config).scan.extensions config.scan.extensions
  exclude : Settled (scanSection.given document "exclude")
    writeTexts id ({} : Config).scan.exclude config.scan.exclude
  gitignore : Settled (scanSection.given document "gitignore")
    Value.boolean id ({} : Config).scan.gitignore config.scan.gitignore

/-- The document gives no version, or the one that is supported. -/
def SupportsVersion (document : Document) : Prop :=
  givenVersion document = none ∨
    givenVersion document = some (.string supportedVersion)

/-- The second document has an unknown key more, at the top or in a section,
whose numbers can be held, or it has an empty section more. -/
inductive SaysMore : Document → Document → Prop
  | unknown (before after : Document) {key : Text}
      (isUnknown : UnknownKey key) {value : Value} (held : value.Held) :
      SaysMore (before ++ after) (before ++ (key, value) :: after)
  | unknownInSection (before after : Document) {type : SectionType}
      (isSection : type ∈ sections) (front back : List (Text × Value))
      {key : Text} (isUnknown : type.fields.lookup key = none)
      {value : Value} (held : value.Held) :
      SaysMore (before ++ (type.name, .table (front ++ back)) :: after)
        (before ++
          (type.name, .table (front ++ (key, value) :: back)) :: after)
  | emptySection (before after : Document) {type : SectionType}
      (isSection : type ∈ sections)
      (isMissing : (before ++ after).lookup type.name = none) :
      SaysMore (before ++ after)
        (before ++ (type.name, .table []) :: after)

/-! ## Settings of a well-typed document -/

theorem mem_of_lookup_eq_some {entries : List (Text × Value)} {key : Text}
    {value : Value} (found : entries.lookup key = some value) :
    (key, value) ∈ entries := by
  obtain ⟨before, after, rfl, _⟩ := List.lookup_eq_some_iff.mp found
  simp

theorem WellTyped.accepts_given {document : Document}
    (typed : WellTyped document) {type : SectionType}
    (isSection : type ∈ Config.sections) {key : Text} {field : FieldType}
    (isField : type.fields.lookup key = some field) {value : Value}
    (given : type.given document key = some value) : field.Accepts value := by
  rw [SectionType.given, SectionType.entriesIn] at given
  cases found : document.lookup type.name with
  | none =>
      rw [found] at given
      cases given
  | some whole =>
      obtain ⟨isWhole, parts⟩ := typed.sections _
        (mem_of_lookup_eq_some found) type isSection rfl
      rw [found, Option.bind_some, isWhole, Option.getD_some] at given
      exact parts _ (mem_of_lookup_eq_some given) field isField

/-- The settings of an empty section are the standard ones. -/
theorem manifestSettings_nil : manifestSettings [] = {} := rfl

theorem outputSettings_nil : outputSettings [] = {} := rfl

theorem scanSettings_nil : scanSettings [] = {} := rfl

/-- A missing section is as good as an empty one, if the standard settings are
those of an empty section. -/
theorem SectionType.settingsIn_eq {α : Type} {type : SectionType}
    {settings : List (Text × Value) → α} {standard : α}
    (agree : settings [] = standard) (document : Document) :
    type.settingsIn document settings standard =
      settings (type.entriesIn document) := by
  rw [settingsIn, entriesIn]
  cases (document.lookup type.name).bind type.entries? with
  | none => exact agree.symm
  | some entries => rfl

theorem overlay_eq (document : Document) :
    overlay document =
      { version := setting document "version" optionalTextOf? none
        manifest := manifestSettings (manifestSection.entriesIn document)
        output := outputSettings (outputSection.entriesIn document)
        scan := scanSettings (scanSection.entriesIn document) } := by
  rw [overlay, SectionType.settingsIn_eq manifestSettings_nil,
    SectionType.settingsIn_eq outputSettings_nil,
    SectionType.settingsIn_eq scanSettings_nil]

/-- A setting is settled by what its key holds, if that can be read. -/
theorem settled_setting {α β : Type} {entries : List (Text × Value)}
    {key : Text} {read : Value → Option α} {write : β → Value}
    {hold : β → α} {standard : α}
    (reads : ∀ value, entries.lookup key = some value →
      ∃ content, value = write content ∧ read value = some (hold content)) :
    Settled (entries.lookup key) write hold standard
      (setting entries key read standard) := by
  rw [setting]
  cases isGiven : entries.lookup key with
  | none => exact .standard rfl
  | some value =>
      obtain ⟨content, rfl, readBack⟩ := reads value isGiven
      rw [Option.bind_some, readBack]
      exact .given rfl

theorem textOf?_of_accepts {expected : Expected} {value : Value}
    (isText : expected ≠ .boolean)
    (accepted : (FieldType.one expected).Accepts value) :
    ∃ text, value = .string text ∧ textOf? value = some text := by
  obtain ⟨_ | _ | _⟩ := accepted
  · exact ⟨_, rfl, rfl⟩
  · exact ⟨_, rfl, rfl⟩
  · exact absurd rfl isText

theorem optionalTextOf?_of_accepts {expected : Expected} {value : Value}
    (isText : expected ≠ .boolean)
    (accepted : (FieldType.one expected).Accepts value) :
    ∃ text, value = .string text ∧
      optionalTextOf? value = some (some text) := by
  obtain ⟨text, same, reads⟩ := textOf?_of_accepts isText accepted
  exact ⟨text, same, by rw [optionalTextOf?, reads, Option.map_some]⟩

theorem switchOf?_of_accepts {value : Value}
    (accepted : (FieldType.one .boolean).Accepts value) :
    ∃ switch, value = .boolean switch ∧ switchOf? value = some switch := by
  obtain ⟨_ | _ | _⟩ := accepted
  exact ⟨_, rfl, rfl⟩

theorem textsOf?_of_accepts {expected : Expected} {value : Value}
    (isText : expected ≠ .boolean)
    (accepted : (FieldType.many expected).Accepts value) :
    ∃ texts, value = writeTexts texts ∧ textsOf? value = some texts := by
  obtain _ | ⟨accepted⟩ := accepted
  next items =>
  rw [textsOf?]
  induction items with
  | nil => exact ⟨[], rfl, rfl⟩
  | cons item rest ih =>
      obtain ⟨first, later⟩ := List.forall_mem_cons.mp accepted
      obtain ⟨text, rfl, readText⟩ := textOf?_of_accepts isText (.one first)
      obtain ⟨texts, same, readTexts⟩ := ih later
      cases same
      refine ⟨text :: texts, rfl, ?_⟩
      rw [List.mapM_cons, readText, readTexts]
      rfl

theorem WellTyped.overlays_overlay {document : Document}
    (typed : WellTyped document) : Overlays document (overlay document) := by
  have isManifest : manifestSection ∈ Config.sections := by
    simp [Config.sections]
  have isOutput : outputSection ∈ Config.sections := by
    simp [Config.sections]
  have isScan : scanSection ∈ Config.sections := by simp [Config.sections]
  have accepts {type : SectionType} (isSection : type ∈ Config.sections)
      {key : Text} {field : FieldType}
      (isField : type.fields.lookup key = some field) (value : Value)
      (given : (type.entriesIn document).lookup key = some value) :
      field.Accepts value :=
    typed.accepts_given isSection isField given
  rw [overlay_eq]
  constructor
  · apply settled_setting
    intro value given
    have accepted := typed.version _ (mem_of_lookup_eq_some given) rfl
    exact optionalTextOf?_of_accepts (by decide) (.one accepted)
  · exact settled_setting fun value given =>
      textOf?_of_accepts (by decide) (accepts isManifest rfl value given)
  · exact settled_setting fun value given =>
      switchOf?_of_accepts (accepts isManifest rfl value given)
  · exact settled_setting fun value given =>
      optionalTextOf?_of_accepts (by decide)
        (accepts isManifest rfl value given)
  · exact settled_setting fun value given =>
      optionalTextOf?_of_accepts (by decide) (accepts isOutput rfl value given)
  · exact settled_setting fun value given =>
      optionalTextOf?_of_accepts (by decide) (accepts isOutput rfl value given)
  · exact settled_setting fun value given =>
      textsOf?_of_accepts (by decide) (accepts isScan rfl value given)
  · exact settled_setting fun value given =>
      textsOf?_of_accepts (by decide) (accepts isScan rfl value given)
  · exact settled_setting fun value given =>
      textsOf?_of_accepts (by decide) (accepts isScan rfl value given)
  · exact settled_setting fun value given =>
      switchOf?_of_accepts (accepts isScan rfl value given)

theorem ofDocument_of_problem {document : Document}
    (refused : ¬(WellTyped document ∧ HoldsUnknown document)) :
    ∃ problem, ofDocument document = .error (.unreadableConfig problem) := by
  rw [← problem?_eq_none_iff] at refused
  obtain ⟨problem, found⟩ := Option.ne_none_iff_exists'.mp refused
  exact ⟨problem, by rw [ofDocument, found]⟩

theorem ofDocument_of_typed {document : Document}
    (typed : WellTyped document) (holds : HoldsUnknown document) :
    (SupportsVersion document ∧
        ofDocument document = .ok (overlay document)) ∨
      ∃ version, version ≠ supportedVersion ∧
        givenVersion document = some (.string version) ∧
        ofDocument document = .error (unsupportedVersion version) := by
  have noProblem := problem?_eq_none_iff.mpr ⟨typed, holds⟩
  have settled := typed.overlays_overlay.version
  generalize isVersion : (overlay document).version = version at settled
  rw [ofDocument, noProblem, SupportsVersion]
  simp only [isVersion]
  cases settled with
  | @given version isGiven =>
      by_cases supported : version = supportedVersion
      · left
        exact ⟨Or.inr (by rw [isGiven, supported]), if_pos supported⟩
      · right
        exact ⟨version, supported, isGiven, if_neg supported⟩
  | standard isMissing => exact Or.inl ⟨Or.inl isMissing, rfl⟩

theorem typed_of_ofDocument {document : Document} {config : Config}
    (loads : ofDocument document = .ok config) :
    WellTyped document ∧ HoldsUnknown document := by
  apply Classical.byContradiction
  intro refused
  obtain ⟨_, fails⟩ := ofDocument_of_problem refused
  cases fails.symm.trans loads

theorem overlays_of_ofDocument {document : Document} {config : Config}
    (loads : ofDocument document = .ok config) :
    Overlays document config := by
  obtain ⟨typed, holds⟩ := typed_of_ofDocument loads
  rcases ofDocument_of_typed typed holds with ⟨_, same⟩ | ⟨_, _, _, fails⟩
  · cases same.symm.trans loads
    exact typed.overlays_overlay
  · cases fails.symm.trans loads

/-! ## Loaded configurations -/

/-- Both reports have a path. -/
structure NamesReports (config : Config) : Prop where
  csv : ∃ path, config.output.csv = some path
  summary : ∃ path, config.output.summary = some path

/-- The configuration is what a file says, or the defaults where there is no
usual file. -/
inductive Loaded (config : Config) : Prop
  | given {source : ConfigSource} {path : Bytes}
      (loads : loadFrom source path = .ok config)
  | usual {source : ConfigSource} (loads : load source = .ok config)

theorem Settled.exists_eq_some {given : Option Value}
    {write : Text → Value} {standard : Text} {chosen : Option Text}
    (settled : Settled given write some (some standard) chosen) :
    ∃ path, chosen = some path := by
  cases settled with
  | @given value => exact ⟨value, rfl⟩
  | standard => exact ⟨standard, rfl⟩

theorem Overlays.namesReports {document : Document} {config : Config}
    (overlays : Overlays document config) : config.NamesReports :=
  ⟨overlays.csv.exists_eq_some, overlays.summary.exists_eq_some⟩

theorem namesReports_of_loadFrom {source : ConfigSource} {path : Bytes}
    {config : Config} (loads : loadFrom source path = .ok config) :
    config.NamesReports := by
  rw [loadFrom] at loads
  split at loads
  · rw [ofText] at loads
    split at loads
    · exact (overlays_of_ofDocument loads).namesReports
    · cases loads
  · cases loads

/-- No file can take a report away. -/
theorem Loaded.namesReports {config : Config} (loaded : config.Loaded) :
    config.NamesReports := by
  have standard : ({} : Config).NamesReports := ⟨⟨_, rfl⟩, ⟨_, rfl⟩⟩
  cases loaded with
  | given loads => exact namesReports_of_loadFrom loads
  | usual loads =>
      rw [load] at loads
      split at loads
      · cases loads
        exact standard
      · simp only at loads
        split at loads
        · exact namesReports_of_loadFrom loads
        · cases loads
          exact standard

/-! ## Documents that say the same -/

theorem lookup_insert {before after : Document} {key other : Text}
    (different : other ≠ key) (value : Value) :
    (before ++ (key, value) :: after).lookup other =
      (before ++ after).lookup other := by
  have differs : (other == key) = false := by simpa using different
  rw [List.lookup_append, List.lookup_append, List.lookup_cons, differs]

theorem findSome?_insert {α β : Type} {problem : α → Option β}
    {before after : List α} {item : α} (fine : problem item = none) :
    (before ++ item :: after).findSome? problem =
      (before ++ after).findSome? problem := by
  rw [List.findSome?_append, List.findSome?_append, List.findSome?_cons,
    fine]

/-- What is given for the version and the keys of the sections settles the
configuration. -/
theorem overlay_congr {document other : Document}
    (version : givenVersion document = givenVersion other)
    (given : ∀ type ∈ sections, ∀ key,
      (type.fields.lookup key).isSome = true →
        type.given document key = type.given other key) :
    overlay document = overlay other := by
  have inManifest := given manifestSection (by simp [sections])
  have inOutput := given outputSection (by simp [sections])
  have inScan := given scanSection (by simp [sections])
  simp only [givenVersion] at version
  simp only [SectionType.given] at inManifest inOutput inScan
  simp only [overlay_eq, manifestSettings, outputSettings, scanSettings,
    setting, version, inManifest "path" rfl,
    inManifest "strict_line_numbers" rfl, inManifest "root" rfl,
    inOutput "csv" rfl, inOutput "summary" rfl, inScan "roots" rfl,
    inScan "extensions" rfl, inScan "exclude" rfl, inScan "gitignore" rfl]

theorem ofDocument_congr {document other : Document}
    (problem : problem? document = problem? other)
    (same : overlay document = overlay other) :
    ofDocument document = ofDocument other := by
  rw [ofDocument, ofDocument, problem, same]

theorem lookup_replaced (before after : Document) (name : Text)
    (value : Value) :
    (before ++ (name, value) :: after).lookup name =
      (before.lookup name).or (some value) := by
  rw [List.lookup_append, List.lookup_cons_self]

theorem SectionType.given_congr {type : SectionType}
    {document other : Document}
    (same : document.lookup type.name = other.lookup type.name)
    (key : Text) : type.given document key = type.given other key := by
  rw [given, given, entriesIn, entriesIn, same]

/-- A section is told from the others by its name. -/
theorem eq_of_name_eq {type other : SectionType}
    (isSection : type ∈ sections) (isOther : other ∈ sections)
    (same : type.name = other.name) : type = other := by
  have found := (find?_sections other.name type isSection same.symm).1
  have foundToo := (find?_sections other.name other isOther rfl).1
  exact Option.some.inj (found.symm.trans foundToo)

theorem entryProblem?_of_section {type : SectionType}
    (isSection : type ∈ sections) (value : Value) :
    entryProblem? (type.name, value) = type.problem? value := by
  obtain ⟨found, notVersion⟩ := find?_sections type.name type isSection rfl
  simp only [entryProblem?, notVersion, if_false, found]

theorem ofDocument_unknown {before after : Document} {key : Text}
    (isUnknown : UnknownKey key) {value : Value} (held : value.Held) :
    ofDocument (before ++ (key, value) :: after) =
      ofDocument (before ++ after) := by
  have fine : entryProblem? (key, value) = none :=
    entryProblem?_eq_none_iff.mpr
      ⟨fun same => absurd same isUnknown.1,
        fun type isSection same => absurd same (isUnknown.2 type isSection),
        fun _ => held⟩
  apply ofDocument_congr
  · exact findSome?_insert fine
  · apply overlay_congr
    · exact lookup_insert isUnknown.1.symm value
    · intro type isSection asked _
      exact SectionType.given_congr
        (lookup_insert (isUnknown.2 type isSection).symm value) asked

theorem ofDocument_unknownInSection {before after : Document}
    {type : SectionType} (isSection : type ∈ sections)
    {front back : List (Text × Value)} {key : Text}
    (isUnknown : type.fields.lookup key = none) {value : Value}
    (held : value.Held) :
    ofDocument
        (before ++
          (type.name, .table (front ++ (key, value) :: back)) :: after) =
      ofDocument
        (before ++ (type.name, .table (front ++ back)) :: after) := by
  have fine : type.entryProblem? (key, value) = none := by
    rw [SectionType.entryProblem?_eq_none_iff, isUnknown]
    exact ⟨nofun, fun _ => held⟩
  apply ofDocument_congr
  · have same : entryProblem?
          (type.name, .table (front ++ (key, value) :: back)) =
        entryProblem? (type.name, .table (front ++ back)) := by
      rw [entryProblem?_of_section isSection,
        entryProblem?_of_section isSection]
      exact findSome?_insert fine
    simp only [problem?, List.findSome?_append, List.findSome?_cons, same]
  · apply overlay_congr
    · have notVersion : "version".toList ≠ type.name :=
        (find?_sections type.name type isSection rfl).2.symm
      rw [givenVersion, givenVersion, lookup_insert notVersion,
        lookup_insert notVersion]
    · intro other isOther asked isKnown
      by_cases same : other.name = type.name
      · cases eq_of_name_eq isOther isSection same
        rw [SectionType.given, SectionType.given, SectionType.entriesIn,
          SectionType.entriesIn, lookup_replaced, lookup_replaced]
        cases before.lookup type.name with
        | some earlier => rfl
        | none =>
            have different : asked ≠ key := by
              rintro rfl
              rw [isUnknown] at isKnown
              cases isKnown
            exact lookup_insert different value
      · apply SectionType.given_congr
        rw [lookup_insert same, lookup_insert same]

theorem ofDocument_emptySection {before after : Document}
    {type : SectionType} (isSection : type ∈ sections)
    (isMissing : (before ++ after).lookup type.name = none) :
    ofDocument (before ++ (type.name, .table []) :: after) =
      ofDocument (before ++ after) := by
  apply ofDocument_congr
  · exact findSome?_insert (entryProblem?_of_section isSection _)
  · apply overlay_congr
    · apply lookup_insert
      exact (find?_sections type.name type isSection rfl).2.symm
    · intro other isOther asked _
      by_cases same : other.name = type.name
      · cases eq_of_name_eq isOther isSection same
        have inFront : before.lookup type.name = none := by
          rw [List.lookup_append, Option.or_eq_none_iff] at isMissing
          exact isMissing.1
        rw [SectionType.given, SectionType.given, SectionType.entriesIn,
          SectionType.entriesIn, lookup_replaced, inFront, isMissing]
        rfl
      · exact SectionType.given_congr (lookup_insert same _) asked

/-- A document that says more only by unknown keys and empty sections leads to
the same. -/
theorem SaysMore.ofDocument_eq {document other : Document}
    (more : SaysMore document other) :
    ofDocument other = ofDocument document := by
  cases more with
  | unknown before after isUnknown held =>
      exact ofDocument_unknown isUnknown held
  | unknownInSection before after isSection front back isUnknown held =>
      exact ofDocument_unknownInSection isSection isUnknown held
  | emptySection before after isSection isMissing =>
      exact ofDocument_emptySection isSection isMissing

theorem loadFrom_eq_ofDocument {source : ConfigSource} {path : Bytes}
    {text : Text} {document : Document}
    (isFile : source.read path = .ok text)
    (parsed : Toml.Document.parse? text = some document) :
    loadFrom source path = ofDocument document := by
  simp only [loadFrom, isFile, ofText, parsed]

/-- The usual file is asked for, unless there is none. -/
theorem load_cases (source : ConfigSource) :
    (∀ directory, source.current = some directory →
      source.isPresent (Path.join directory fileName) = true →
        load source = loadFrom source (Path.join directory fileName)) ∧
    ((∀ directory, source.current = some directory →
      source.isPresent (Path.join directory fileName) = false) →
        load source = .ok {}) := by
  rw [load]
  cases source.current with
  | none => exact ⟨nofun, fun _ => rfl⟩
  | some directory =>
      constructor
      · rintro _ ⟨rfl⟩ present
        exact if_pos present
      · intro absent
        simp [absent directory rfl]

end Config

/-- A configuration file that is a document loads exactly if its known keys
have the types they ask for, the numbers under its unknown keys can be held
and its version, if it gives one, is supported; the version is looked at last.
Each setting is then what the file gives, or else the default.  So unknown
keys change nothing as long as their numbers can be held, and neither do empty
sections.  Without a usual file all settings are the defaults. -/
theorem config_overlays_defaults {source : ConfigSource} {path : Bytes}
    {text : Text} {document : Toml.Document}
    (isFile : source.read path = .ok text)
    (parsed : Toml.Document.parse? text = some document) :
    ((∃ config, Config.loadFrom source path = .ok config) ↔
      Config.WellTyped document ∧ Config.HoldsUnknown document ∧
        Config.SupportsVersion document) ∧
    (∀ config, Config.loadFrom source path = .ok config →
      Config.Overlays document config) ∧
    (¬(Config.WellTyped document ∧ Config.HoldsUnknown document) →
      ∃ problem,
        Config.loadFrom source path = .error (.unreadableConfig problem)) ∧
    (Config.WellTyped document → Config.HoldsUnknown document →
      ¬Config.SupportsVersion document → ∃ reason,
        Config.loadFrom source path = .error (.config reason)) ∧
    (∀ otherPath otherText other, source.read otherPath = .ok otherText →
      Toml.Document.parse? otherText = some other →
        Config.SaysMore document other →
          Config.loadFrom source otherPath = Config.loadFrom source path) ∧
    (∀ directory, source.current = some directory →
      source.isPresent (Path.join directory Config.fileName) = true →
        Config.load source =
          Config.loadFrom source (Path.join directory Config.fileName)) ∧
    ((∀ directory, source.current = some directory →
      source.isPresent (Path.join directory Config.fileName) = false) →
        Config.load source = .ok {}) := by
  rw [Config.loadFrom_eq_ofDocument isFile parsed]
  refine ⟨?_, ?_, Config.ofDocument_of_problem, ?_, ?_,
    Config.load_cases source⟩
  · constructor
    · rintro ⟨config, loads⟩
      obtain ⟨typed, holds⟩ := Config.typed_of_ofDocument loads
      rcases Config.ofDocument_of_typed typed holds with
        ⟨supported, _⟩ | ⟨_, _, _, fails⟩
      · exact ⟨typed, holds, supported⟩
      · cases fails.symm.trans loads
    · rintro ⟨typed, holds, supported⟩
      rcases Config.ofDocument_of_typed typed holds with
        ⟨_, loads⟩ | ⟨version, unsupported, given, _⟩
      · exact ⟨_, loads⟩
      · rcases supported with missing | same
        · cases missing.symm.trans given
        · cases same.symm.trans given
          exact absurd rfl unsupported
  · intro config loads
    exact Config.overlays_of_ofDocument loads
  · intro typed holds unsupported
    rcases Config.ofDocument_of_typed typed holds with
      ⟨supported, _⟩ | ⟨_, _, _, fails⟩
    · exact absurd supported unsupported
    · exact ⟨_, fails⟩
  · intro otherPath otherText other isOther parsedOther more
    rw [Config.loadFrom_eq_ofDocument isOther parsedOther]
    exact more.ofDocument_eq

/-- One setting of a section is given, beside an unknown key. -/
theorem config_overlays_defaults_of_one_setting :
    let text : Text := "x=\"y\"\n[scan]\ngitignore=false\n"
    let source := ConfigSource.ofFiles [("a.toml", some text)] (some "/")
    let document : Toml.Document := [("x", .string "y"),
      ("scan", .table [("gitignore", .boolean false)])]
    let config : Config := { scan := { gitignore := false } }
    source.read "a.toml" = .ok text ∧
      Toml.Document.parse? text = some document ∧
      Config.loadFrom source "a.toml" = .ok config ∧
      Config.Overlays document config ∧ Config.load source = .ok {} := by
  intro text source document config
  have isFile : source.read "a.toml" = .ok text := rfl
  have tokens : Toml.tokens? text =
      some [.word "x", .mark '=', .string "y" false, .newLine, .mark '[',
        .word "scan", .mark ']', .newLine, .word "gitignore", .mark '=',
        .word "false", .newLine] := by decide +kernel
  have parsed : Toml.Document.parse? text = some document := by
    rw [Toml.Document.parse?, tokens]
    rfl
  obtain ⟨_, overlays, _, _, _, _, absent⟩ :=
    config_overlays_defaults isFile parsed
  have loads : Config.loadFrom source "a.toml" = .ok config := by
    rw [Config.loadFrom_eq_ofDocument isFile parsed]
    rfl
  refine ⟨isFile, parsed, loads, overlays config loads, absent ?_⟩
  rintro directory ⟨rfl⟩
  rfl

/-- A number that is too large is refused even under an unknown key. -/
theorem config_refused_for_unknown_number :
    let digits : Text := '1' :: Text.repeated 49 '0'
    let text : Text := 'x' :: '=' :: digits ++ ['\n']
    let source := ConfigSource.ofFiles [("c.toml", some text)] (some "/")
    let document : Toml.Document := [("x",
      .integer 10000000000000000000000000000000000000000000000000)]
    source.read "c.toml" = .ok text ∧
      Toml.Document.parse? text = some document ∧
      Config.UnknownKey "x" ∧ Config.WellTyped document ∧
      Config.SupportsVersion document ∧
      Config.loadFrom source "c.toml" =
        .error (.unreadableConfig (.other "integer number overflowed")) := by
  intro digits text source document
  have isFile : source.read "c.toml" = .ok text := rfl
  have tokens : Toml.tokens? text = some [.word "x", .mark '=',
      .word digits, .newLine] := by decide +kernel
  have parsed : Toml.Document.parse? text = some document := by
    rw [Toml.Document.parse?, tokens]
    rfl
  have isUnknown : Config.UnknownKey "x" := by
    constructor <;> decide
  have typed : Config.WellTyped document := by
    constructor
    · intro entry member same
      rw [List.mem_singleton.mp member] at same
      exact absurd same isUnknown.1
    · intro entry member type isSection same
      rw [List.mem_singleton.mp member] at same
      exact absurd same (isUnknown.2 type isSection)
  refine ⟨isFile, parsed, isUnknown, typed, Or.inl rfl, ?_⟩
  rw [Config.loadFrom_eq_ofDocument isFile parsed]
  rfl

end AccessAudit
