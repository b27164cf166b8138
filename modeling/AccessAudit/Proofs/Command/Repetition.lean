import AccessAudit.Proofs.Command.ExitCode
import AccessAudit.Proofs.Command.Inputs

/-!
# Audits that are repeated

Where an audit writes apart from what it reads, its files are written in the
end and nothing else has changed.  So a second audit reads the same, and
writes the same texts to the same places once more.
-/

namespace AccessAudit

/-- Sources that agree on the paths of a manifest lead to one report. -/
theorem Report.ofManifest_congr {source other : ContentSource}
    {manifest : Manifest}
    (same : ∀ entry ∈ manifest.entries,
      other entry.path = source entry.path) :
    ofManifest other manifest = ofManifest source manifest := by
  have rows : manifest.entries.map (ReportRow.ofEntry other) =
      manifest.entries.map (ReportRow.ofEntry source) := by
    apply List.map_congr_left
    intro entry member
    simp only [ReportRow.ofEntry, assess, same entry member]
  simp only [ofManifest, ofEntries, rows]

namespace Workspace

/-- Two paths lead to one location. -/
def Meet (workspace : Workspace) (path other : Bytes) : Prop :=
  ∃ location, workspace.locate? .use path = some location ∧
    workspace.locate? .use other = some location

instance (workspace : Workspace) (path other : Bytes) :
    Decidable (workspace.Meet path other) :=
  match first : workspace.locate? .use path with
  | none => .isFalse fun ⟨location, leads, _⟩ => by simp [first] at leads
  | some location =>
      decidable_of_iff (workspace.locate? .use other = some location)
        (by simp [Meet, first])

end Workspace

/-- The second outcome shows the same as the first, and nothing has changed
between them. -/
structure Outcome.Repeats (first second : Outcome) : Prop where
  exitCode : second.exitCode = first.exitCode
  output : second.output = first.output
  errorOutput : second.errorOutput = first.errorOutput
  current : second.workspace.current = first.workspace.current
  look : ∀ location, second.workspace.tree.look location =
    first.workspace.tree.look location

namespace AuditArguments

namespace Loading

variable {arguments : AuditArguments} {options : GlobalOptions}
  {workspace : Workspace}

/-- The paths at which the audit reads: the configuration, the manifest and
its entries. -/
def inputs (loading : Loading arguments options workspace) : List Bytes :=
  (workspace.configFile? options arguments.config).toList ++
    Utf8.encode loading.settings.manifest ::
      loading.manifest.entries.map fun entry =>
        Path.join loading.settings.root entry.path

/-- The paths at which the audit writes: the report files in effect and the
output file. -/
def outputs (loading : Loading arguments options workspace) : List Text :=
  loading.settings.csv.toList ++ loading.settings.summary.toList ++
    arguments.output.toList

/-- The outputs lie in existing directories and lead to none of the places
that are read. -/
structure Apart (loading : Loading arguments options workspace) : Prop where
  inDirectory : ∀ path ∈ loading.outputs, workspace.InDirectory path
  noMeeting : ∀ path ∈ loading.outputs, ∀ input ∈ loading.inputs,
    ¬workspace.Meet path input

/-- What the audit shows and writes is the report on the files as they were.
It changes nothing but its outputs, and all its verdicts still hold. -/
structure Leaves (loading : Loading arguments options workspace)
    (outcome : Outcome) : Prop where
  output : outcome.output =
    if arguments.output.isSome || options.quiet then []
    else loading.rendered
  current : outcome.workspace.current = workspace.current
  written : ∀ location file,
    workspace.lastAt? loading.files location = some file →
      outcome.workspace.tree.look location =
        some (.file (workspace.tree.written location
          (Utf8.encode file.content)))
  kept : ∀ location,
    (∀ path ∈ loading.outputs,
      workspace.locate? .use path ≠ some location) →
      outcome.workspace.tree.look location = workspace.tree.look location
  assessed : ∀ entry ∈ loading.manifest.entries,
    assess (outcome.workspace.contentSource loading.settings.root)
      entry.path = assess loading.source entry.path

theorem map_path_files (loading : Loading arguments options workspace) :
    loading.files.map (·.path) = loading.outputs := by
  rw [files, outputs, AuditSettings.reportFiles]
  cases loading.settings.csv <;> cases loading.settings.summary <;>
    cases arguments.output <;> rfl

/-! ## Reading again -/

/-- In another workspace, all the paths at which the audit reads lead to what
they have led to. -/
structure Kept (loading : Loading arguments options workspace)
    (other : Workspace) : Prop where
  current : other.current = workspace.current
  seenAt : ∀ path ∈ loading.inputs,
    other.seenAt? path = workspace.seenAt? path

def again (loading : Loading arguments options workspace)
    {other : Workspace} (kept : loading.Kept other) :
    Loading arguments options other where
  config := loading.config
  manifest := loading.manifest
  loaded := by
    apply Workspace.loadConfig_of_seenAt kept.current ?_ loading.loaded
    intro file isFile
    exact kept.seenAt file (by simp [inputs, isFile])
  parsed := Workspace.loadManifest_of_seenAt
    (kept.seenAt loading.settings.manifest (by simp [inputs])) loading.parsed

variable {loading : Loading arguments options workspace}
  {other : Workspace}

theorem source_again (kept : loading.Kept other) {entry : ManifestEntry}
    (member : entry ∈ loading.manifest.entries) :
    (loading.again kept).source entry.path = loading.source entry.path := by
  apply Workspace.contentSource_of_seenAt
  apply kept.seenAt
  exact List.mem_append_right _ (List.mem_cons_of_mem _
    (List.mem_map.mpr ⟨entry, member, rfl⟩))

theorem report_again (kept : loading.Kept other) :
    (loading.again kept).report = loading.report :=
  Report.ofManifest_congr fun _ member => source_again kept member

theorem files_again (kept : loading.Kept other) :
    (loading.again kept).files = loading.files := by
  have settings : (loading.again kept).settings = loading.settings := rfl
  simp only [files, rendered, report_again kept, settings]

/-! ## The two runs -/

theorem canWrite_of_apart (apart : loading.Apart)
    (written : ¬workspace.WriteFails loading.files) :
    ∀ file ∈ loading.files, workspace.CanWrite file.path := by
  apply Workspace.canWrite_of_writeFiles
  · intro file member
    apply apart.inDirectory
    rw [← loading.map_path_files]
    exact List.mem_map_of_mem member
  · exact Workspace.failure_eq_none_iff.mpr written

theorem kept_of_apart (apart : loading.Apart)
    (written : ¬workspace.WriteFails loading.files) :
    loading.Kept (workspace.writeFiles loading.files).workspace := by
  obtain ⟨_, frame, look⟩ :=
    Workspace.writeFiles_of_canWrite (canWrite_of_apart apart written)
  -- The frame is kept, so every input leads to the location it has led to,
  -- and no output leads there.
  refine ⟨frame.current, fun path isInput => frame.seenAt?_eq ?_⟩
  intro location leads
  have untouched : workspace.lastAt? loading.files location = none := by
    rw [Workspace.lastAt?_eq_none_iff, loading.map_path_files]
    intro output isOutput reached
    exact apart.noMeeting output isOutput path isInput
      ⟨location, reached, leads⟩
  rw [look, Workspace.afterWrites, untouched]

theorem leaves_of_apart (apart : loading.Apart)
    (written : ¬workspace.WriteFails loading.files) :
    loading.Leaves loading.completed := by
  obtain ⟨_, frame, look⟩ :=
    Workspace.writeFiles_of_canWrite (canWrite_of_apart apart written)
  have kept := kept_of_apart apart written
  constructor
  · rfl
  · exact frame.current
  · intro location file last
    rw [completed, look, Workspace.afterWrites, last]
  · intro location apartFrom
    rw [← loading.map_path_files] at apartFrom
    rw [completed, look, Workspace.afterWrites,
      Workspace.lastAt?_eq_none_iff.mpr apartFrom]
  · intro entry member
    have same := source_again kept member
    exact congrArg (assessContent entry.path) same

theorem repeats_of_apart (apart : loading.Apart)
    (written : ¬workspace.WriteFails loading.files) :
    loading.completed.Repeats
      (arguments.run options loading.completed.workspace) := by
  have canWrite := canWrite_of_apart apart written
  have kept := kept_of_apart apart written
  obtain ⟨success, frame, look⟩ := Workspace.writeFiles_again canWrite
  have sameFiles := files_again kept
  have writtenAgain :
      ¬loading.completed.workspace.WriteFails (loading.again kept).files := by
    rw [sameFiles]
    exact Workspace.failure_eq_none_iff.mp success
  -- The second run is completed from what it reads again, and only the
  -- workspaces of the two runs have still to be compared.
  have second : arguments.run options loading.completed.workspace =
      (loading.again kept).completed :=
    (loading.again kept).run_of_not_writeFails writtenAgain
  have workspaceAgain : (loading.again kept).completed.workspace =
      (loading.completed.workspace.writeFiles loading.files).workspace :=
    congrArg (fun files =>
      (loading.completed.workspace.writeFiles files).workspace) sameFiles
  have sameReport := report_again kept
  have sameManifest : (loading.again kept).manifest = loading.manifest := rfl
  rw [second]
  constructor
  · simp only [completed, sameReport]
  · simp only [completed, rendered, sameReport]
  · simp only [completed, Outcome.errorOutput, sameManifest, sameFiles]
  · rw [workspaceAgain]
    exact frame.current
  · rw [workspaceAgain]
    exact look

end Loading

end AuditArguments

/-- An audit that succeeds and writes apart from what it reads changes nothing
but its outputs, reports on the files as they were, and can be run again: it
then shows the same and changes nothing more. -/
theorem audit_repeatable {arguments : AuditArguments}
    {options : GlobalOptions} {workspace : Workspace}
    (apart : ∀ loading : arguments.Loading options workspace, loading.Apart)
    (success : (arguments.run options workspace).exitCode ≠
      Outcome.failureCode) :
    let first := arguments.run options workspace
    let second := arguments.run options first.workspace
    ∃ loading : arguments.Loading options workspace,
      loading.Leaves first ∧ first.Repeats second := by
  intro first second
  have succeeds := mt AuditArguments.exitCode_of_fails success
  obtain ⟨loading, written⟩ := AuditArguments.exists_loading succeeds
  have completed : first = loading.completed :=
    loading.run_of_not_writeFails written
  refine ⟨loading, ?_⟩
  simp only [second, completed]
  exact ⟨AuditArguments.Loading.leaves_of_apart (apart loading) written,
    AuditArguments.Loading.repeats_of_apart (apart loading) written⟩

/-- The report files and the output file lie beside the manifest. -/
theorem audit_repeatable_beside_manifest :
    let manifest : Bytes := Utf8.encode "1→backend/a.js"
    let workspace : Workspace :=
      ⟨.directory [("files.txt", .file { content := manifest }),
        ("backend", .directory [("a.js", .file { content := [] })])], [], none⟩
    let arguments : AuditArguments :=
      ⟨none, none, none, some "a.csv", none, .json,
        some "backend/../a.json", false, false, true⟩
    let options : GlobalOptions := ⟨0, false, .auto, false⟩
    let first := arguments.run options workspace
    (∀ loading : arguments.Loading options workspace, loading.Apart) ∧
      first.exitCode = 0 ∧
      ∃ loading : arguments.Loading options workspace,
        loading.Leaves first ∧
        first.Repeats (arguments.run options first.workspace) := by
  intro manifest workspace arguments options first
  let settings := AuditSettings.resolve arguments {}
  have usual : workspace.seenAt? (Path.join "/" Config.fileName) = none := by
    decide +kernel
  have readable : workspace.contentAt? settings.manifest = some manifest := by
    decide +kernel
  have loaded : workspace.loadConfig options arguments.config = .ok {} :=
    Workspace.loadConfig_eq_ok_iff.mpr (Or.inl ⟨rfl, usual, rfl⟩)
  have parsed : workspace.loadManifest settings.manifest settings.mode =
      .ok ⟨[⟨1, "backend/a.js"⟩], [], 1⟩ :=
    Workspace.loadManifest_eq_ok_iff.mpr
      ⟨manifest, readable, by decide +kernel⟩
  let outputs : List Text := settings.csv.toList ++
    settings.summary.toList ++ arguments.output.toList
  have inDirectory : ∀ path ∈ outputs, workspace.InDirectory path := by
    decide +kernel
  have noMeeting : ∀ path ∈ outputs, ∀ input ∈ ([
      Path.join "/" Config.fileName, settings.manifest,
      Path.join settings.root "backend/a.js"] : List Bytes),
        ¬workspace.Meet path input := by
    decide +kernel
  have apart : ∀ loading : arguments.Loading options workspace,
      loading.Apart := by
    intro loading
    rw [loading.unique ⟨{}, _, loaded, parsed⟩]
    exact ⟨inDirectory, noMeeting⟩
  have code : first.exitCode = 0 := by
    decide +kernel
  refine ⟨apart, code, audit_repeatable apart ?_⟩
  intro failed
  cases code.symm.trans failed

end AccessAudit
