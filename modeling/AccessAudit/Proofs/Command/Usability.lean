import AccessAudit.Proofs.Assessment
import AccessAudit.Proofs.Command.ExitCode
import AccessAudit.Proofs.Command.Listing
import AccessAudit.Proofs.Explanation.Agreement
import AccessAudit.Proofs.FileSystem.Descent
import AccessAudit.Proofs.Manifest.Accounting
import AccessAudit.Proofs.Manifest.RoundTrip

/-!
# Auditing a new manifest

A manifest that is written from the current directory is audited from there.
Every listed file whose path is a text is still found by its path, so the
report covers the listed paths exactly if a manifest can hold them all.
-/

namespace AccessAudit

/-- No line is skipped, the rows are the given paths in order, and each is a
file that is found. -/
structure Report.Covers (report : Report) (paths : List Text) : Prop where
  skipped : report.skipped = 0
  rows : report.rows.map (·.path) = paths
  found : ∀ row ∈ report.rows, row.verdict.status ≠ .notFound

/-- The report on a new manifest covers its paths exactly if all of them are
canonical and there is a text at each. -/
theorem Report.covers_iff {source : ContentSource} {paths : List Text} :
    (Report.ofManifest source
      (Manifest.parse (Manifest.format paths) .strict)).Covers paths ↔
        ∀ path ∈ paths, Canonical path ∧ ∃ text, source path = .text text := by
  generalize isManifest :
    Manifest.parse (Manifest.format paths) .strict = manifest
  have ascending : (manifest.entries.map (·.index)).Pairwise (· < ·) := by
    rw [← isManifest]
    exact Manifest.entries_pairwise_index _ _
  have rows : (Report.ofManifest source manifest).rows =
      manifest.entries.map (ReportRow.ofEntry source) :=
    Report.rows_ofEntries ascending
  have rowPaths : (Report.ofManifest source manifest).rows.map (·.path) =
      manifest.entries.map (·.path) := by
    simp [rows, ReportRow.ofEntry, assess]
  have isFound : ∀ entry : ManifestEntry,
      (ReportRow.ofEntry source entry).verdict.status ≠ .notFound ↔
        ∃ text, source entry.path = .text text := by
    intro entry
    rw [Report.ofEntry_eq, Ne, assess, status_assessContent_eq_notFound_iff]
    simp
  constructor
  · intro covers
    have canonical : ∀ path ∈ paths, Canonical path := by
      intro path member
      rw [← covers.rows, rowPaths] at member
      obtain ⟨entry, isEntry, rfl⟩ := List.mem_map.mp member
      rw [← isManifest] at isEntry
      exact Manifest.canonical_of_mem_entries isEntry
    intro path member
    refine ⟨canonical path member, ?_⟩
    rw [← covers.rows, rowPaths] at member
    obtain ⟨entry, isEntry, rfl⟩ := List.mem_map.mp member
    have isRow : ReportRow.ofEntry source entry ∈
        (Report.ofManifest source manifest).rows := by
      rw [rows]
      exact List.mem_map_of_mem isEntry
    exact (isFound entry).mp (covers.found _ isRow)
  · intro usable
    have numbered : manifest = Manifest.numbered paths := by
      rw [← isManifest]
      exact Manifest.parse_format fun path member => (usable path member).1
    rw [numbered] at rowPaths rows ⊢
    constructor
    · rfl
    · rw [rowPaths, Manifest.map_path_numbered]
    · intro row member
      rw [rows] at member
      obtain ⟨entry, isEntry, rfl⟩ := List.mem_map.mp member
      have listed : entry.path ∈ paths := by
        rw [← Manifest.map_path_numbered paths]
        exact List.mem_map_of_mem isEntry
      exact (isFound entry).mpr (usable entry.path listed).2

/-! ## Files that are found again -/

namespace Workspace

variable {workspace before after : Workspace} {root file path : Bytes}

theorem exists_text_iff {path : Text} :
    (∃ text, workspace.contentSource root path = .text text) ↔
      workspace.Readable (Path.join root path) := by
  rw [contentSource_eq, Readable, contentAt?]
  cases workspace.seenAt? (Path.join root path) with
  | none => simp
  | some found =>
      simp only [Option.bind_some]
      cases found.content? <;> simp

/-- A file that is in the place of an output may be read. -/
def ReadablePlace (workspace : Workspace) (path : Bytes) : Prop :=
  ∀ location old, workspace.WritePlace path (.occupied location) →
    workspace.tree.look location = some (.file old) → old.isReadable = true

/-- A file that is there stays as readable as it is. -/
theorem readable_iff_of_persists {file : StoredFile} {location : Location}
    (resolved : before.resolve .use path = .ok (.occupied location))
    (seen : before.tree.look location = some (.file file))
    (current : after.current = before.current)
    (persists : before.tree.Persists after.tree) :
    after.Readable path ↔ file.isReadable = true := by
  obtain ⟨now, seenNow, same⟩ := persists.file seen
  have found := resolve_of_persists resolved current persists
    (by rintro _ _ ⟨⟩)
  have isThere : after.seenAt? path = some (.file now) := by
    rw [seenAt?, locate?, found]
    exact seenNow
  rw [readable_iff_seenAt, isThere, ← same.isReadable]
  simp

/-- A file below a relative root is found by its path in a manifest, if that
is a text, also when more files are there, and can be read if it could be
before. -/
theorem readable_of_fileBelow (below : before.FileBelow root file)
    (relative : Path.isAbsolute root = false)
    (isText : Utf8.WellFormed file)
    (spelled : Path.toManifestFrom [Path.dot] file ≠ [])
    (current : after.current = before.current)
    (persists : before.tree.Persists after.tree) :
    after.Readable
        (Path.join [Path.dot] (Path.toManifestFrom [Path.dot] file)) ↔
      before.Readable file := by
  cases below with
  | @intro location names stored resolved isFile proper =>
      have walked := seenAt?_foldl_join resolved proper isFile
      rw [Path.toManifestFrom_current] at spelled ⊢
      rw [Path.encode_shown, Path.map_respelled_significant isText,
        Path.significant_foldl_join proper]
      rw [Path.significant_foldl_join proper] at spelled
      have named : Path.significant root ++ names ≠ [] := by
        intro none
        exact spelled (by rw [none, Path.shown_nil])
      rw [readable_iff_of_persists
        (resolve_significant relative resolved proper isFile named) isFile
        current persists, readable_iff_seenAt, walked]
      simp

end Workspace

namespace AuditArguments

/-- The audit of a manifest whose paths begin in the current directory,
without report files and output file. -/
def ofManifest (manifest : Text) (config : Option Text)
    (format : ReportFormat) (failOnMigration : Bool) : AuditArguments where
  manifest := some manifest
  config := config
  root := some "."
  csv := none
  summary := none
  format := format
  output := none
  lenientManifest := false
  noReports := true
  failOnMigration := failOnMigration

/-- The audit comes to its end, shows the report and changes nothing. -/
structure Reports (arguments : AuditArguments) (options : GlobalOptions)
    (workspace : Workspace) (report : Report) : Prop where
  unchanged : (arguments.run options workspace).workspace = workspace
  output : (arguments.run options workspace).output =
    if options.quiet then []
    else
      report.render arguments.format options.verbosity
        (options.color == .always)
  exitCode : (arguments.run options workspace).exitCode =
    arguments.exitCode report

theorem workspace_run_ofManifest (workspace : Workspace)
    (options : GlobalOptions) (manifest : Text) (config : Option Text)
    (format : ReportFormat) (failOnMigration : Bool) :
    ((ofManifest manifest config format failOnMigration).run options
      workspace).workspace = workspace := by
  rw [run]
  split
  · rfl
  · simp only
    split
    · rfl
    · rfl

/-- Nothing is written by such an audit, so it comes to its end once it is
loaded. -/
theorem reports_of_loading {workspace : Workspace} {options : GlobalOptions}
    {manifest : Text} {config : Option Text} {format : ReportFormat}
    {failOnMigration : Bool}
    (loading : (ofManifest manifest config format failOnMigration).Loading
      options workspace) :
    (ofManifest manifest config format failOnMigration).Reports options
      workspace loading.report := by
  have written : ¬workspace.WriteFails loading.files := nofun
  have run := loading.run_of_not_writeFails written
  constructor
  · exact workspace_run_ofManifest workspace options manifest config format
      failOnMigration
  · rw [run]
    rfl
  · rw [run]
    rfl

/-- A strict audit of a file with a text is loaded exactly if the file can be
read, and reports on the manifest that the text is. -/
theorem exists_loading_iff {workspace : Workspace} {options : GlobalOptions}
    {manifest text : Text} {config : Option Text} {settings : Config}
    {file : StoredFile} (format : ReportFormat) (failOnMigration : Bool)
    (loaded : workspace.loadConfig options config = .ok settings)
    (strict : settings.manifest.strictLineNumbers = true)
    (seen : workspace.seenAt? manifest = some (.file file))
    (written : file.content = Utf8.encode text) (property : Report → Prop) :
    (∃ loading : (ofManifest manifest config format failOnMigration).Loading
        options workspace, property loading.report) ↔
      workspace.Readable manifest ∧
        property (Report.ofManifest (workspace.contentSource [Path.dot])
          (Manifest.parse text .strict)) := by
  have settled : (AuditSettings.resolve
      (ofManifest manifest config format failOnMigration) settings).mode =
        .strict := by
    simp [AuditSettings.resolve, AuditSettings.mode, strict, ofManifest]
  have parsed : ∀ content, workspace.contentAt? manifest = some content →
      workspace.loadManifest manifest .strict =
        .ok (Manifest.parse text .strict) := by
    intro content isContent
    obtain ⟨same, isFile, _, isSame⟩ :=
      Workspace.contentAt?_eq_some_iff.mp isContent
    cases seen.symm.trans isFile
    rw [Workspace.loadManifest_eq_ok_iff]
    refine ⟨content, isContent, ?_⟩
    rw [← isSame, written, Utf8.decodeLossy_encode]
  constructor
  · rintro ⟨⟨other, found, again, read⟩, holds⟩
    cases loaded.symm.trans again
    rw [settled] at read
    obtain ⟨content, isContent, _⟩ :=
      Workspace.loadManifest_eq_ok_iff.mp read
    cases (parsed content isContent).symm.trans read
    exact ⟨⟨content, isContent⟩, holds⟩
  · rintro ⟨⟨content, isContent⟩, holds⟩
    refine ⟨⟨settings, _, loaded, ?_⟩, holds⟩
    rw [settled]
    exact parsed content isContent

end AuditArguments

/-- A manifest of files below relative roots, written from the current
directory, is usable by a strict audit exactly if it can be read itself, and
the listed paths are canonical and lead to files that can be read.  Where the
path of a scanned file is a text, the listed path leads to a file that can be
read exactly if the scanned file can be read. -/
theorem manifest_usable_iff_canonical [Glob.Engine]
    {arguments : ManifestArguments} {options : GlobalOptions}
    {workspace : Workspace} {path : Text}
    (wellFormed : workspace.tree.WellFormed)
    (base : arguments.base = ['.']) (output : arguments.output = some path)
    (success : (arguments.run options workspace).exitCode = 0) :
    let after := (arguments.run options workspace).workspace
    ∃ listing : arguments.Listing options workspace,
      listing.Delivered (arguments.run options workspace) ∧
      (∀ auditOptions config format failOnMigration settings,
        after.loadConfig auditOptions config = .ok settings →
        settings.manifest.strictLineNumbers = true →
        let audit := AuditArguments.ofManifest path config format
          failOnMigration
        (∃ loading : audit.Loading auditOptions after,
          audit.Reports auditOptions after loading.report ∧
            loading.report.Covers listing.paths) ↔
          workspace.ReadablePlace path ∧ ∀ listed ∈ listing.paths,
            Canonical listed ∧
              after.Readable (Path.join [Path.dot] listed)) ∧
      ((∀ root ∈ arguments.roots listing.config,
          Path.isAbsolute root = false) →
        ∀ file ∈ listing.files, Utf8.WellFormed file →
          let listed := Path.toManifestFrom arguments.base file
          listed ≠ [] → (after.Readable (Path.join [Path.dot] listed) ↔
            workspace.Readable file)) := by
  intro after
  obtain ⟨listing⟩ := ManifestArguments.exists_listing success
  have delivered := listing.delivered success
  refine ⟨listing, delivered, ?_, ?_⟩
  · intro auditOptions config format failOnMigration settings loaded strict
      audit
    obtain ⟨file, seen, written⟩ := delivered.file path output
    have readablePlace :
        after.Readable path ↔ workspace.ReadablePlace path := by
      obtain ⟨success, same⟩ := listing.workspace_run_of_some output success
      rw [show after = _ from same]
      exact Workspace.readable_write_iff success
    have covers := AuditArguments.exists_loading_iff format failOnMigration
      loaded strict seen written (fun report => report.Covers listing.paths)
    rw [readablePlace, Report.covers_iff] at covers
    simp only [Workspace.exists_text_iff] at covers
    rw [← covers]
    constructor
    · rintro ⟨loading, _, covers⟩
      exact ⟨loading, covers⟩
    · rintro ⟨loading, covers⟩
      exact ⟨loading, AuditArguments.reports_of_loading loading, covers⟩
  · intro relative file isFile isText listed spelled
    have fromCurrent : Utf8.encode arguments.base = [Path.dot] := by
      rw [base]
      decide +kernel
    simp only [listed, fromCurrent] at spelled ⊢
    obtain ⟨_, below⟩ := listing.exists_root_of_mem_files isFile
    obtain ⟨root, isRoot, found⟩ := below wellFormed
    exact Workspace.readable_of_fileBelow found (relative root isRoot)
      isText spelled delivered.current delivered.persists

/-- With an ordinary name below a default root, the audit finds the file. -/
theorem manifest_usable_for_ordinary_name :
    letI : Glob.Engine := .standard
    let empty : Node := .file { content := [] }
    let workspace : Workspace :=
      ⟨.directory [("backend", .directory [("a.js", empty)])], [], none⟩
    let arguments : ManifestArguments :=
      ⟨[], none, ".", none, [], false, some "files.txt"⟩
    let options : GlobalOptions := ⟨0, false, .auto, true⟩
    let after := (arguments.run options workspace).workspace
    let audit := AuditArguments.ofManifest "files.txt" none .text false
    (arguments.run options workspace).exitCode = 0 ∧
      ∃ loading : audit.Loading options after,
        audit.Reports options after loading.report ∧
        loading.report.Covers ["backend/a.js"] := by
  let _ : Glob.Engine := .standard
  intro empty workspace arguments options after audit
  have success : (arguments.run options workspace).exitCode = 0 := by
    decide +kernel
  have wellFormed : workspace.tree.WellFormed := by decide
  obtain ⟨listing, delivered, usable, _⟩ :=
    manifest_usable_iff_canonical wellFormed rfl rfl success
  have paths : listing.paths = (["backend/a.js"] : List Text) := by
    let filter : FileFilter := ⟨defaultExtensions,
      [(Glob.parse "**/node_modules/**").toOption.getD []]⟩
    have taken : Glob.Engine.refusal? filter.excluded = none := by
      decide +kernel
    have isFilter : arguments.filter {} = .ok filter := by
      rw [ManifestArguments.filter,
        FileFilter.build_eq_ok_iff.mpr ⟨rfl, rfl, taken⟩]
    have files : listing.files = [Utf8.encode "./backend/a.js"] :=
      listing.files_eq rfl isFilter (by decide +kernel)
    rw [ManifestArguments.Listing.paths, files]
    decide +kernel
  have covers := usable options none .text false {} rfl rfl
  rw [paths] at covers
  refine ⟨success, covers.mpr ⟨?_, ?_⟩⟩
  · -- There is no file of that name yet.
    intro location old leads _
    have vacant : ((workspace.prepared "files.txt").workspace.resolve .write
        "files.txt").toOption = some (.vacant [] "files.txt") := by
      decide +kernel
    rw [leads.resolved] at vacant
    cases vacant
  · intro listed member
    rw [List.mem_singleton.mp member]
    refine ⟨⟨by decide, by decide, by decide, ?_, ?_⟩, [], ?_⟩
    · intro c first
      cases (show some 'b' = some c from first)
      decide
    · intro c last
      cases (show some 's' = some c from last)
      decide
    · decide +kernel

/-- A name with a backslash is listed as it is and read back with a slash, and
no such file is found. -/
theorem manifest_not_usable_for_backslash :
    letI : Glob.Engine := .standard
    let empty : Node := .file { content := [] }
    let workspace : Workspace :=
      ⟨.directory [("backend", .directory [("a\\b.js", empty)])], [], none⟩
    let arguments : ManifestArguments :=
      ⟨[], none, ".", none, [], false, some "files.txt"⟩
    let options : GlobalOptions := ⟨0, false, .auto, true⟩
    let outcome := arguments.run options workspace
    let report : Report :=
      ⟨[⟨1, "backend/a/b.js", "file-not-found", .fileNotFound⟩],
        ⟨0, 0, 0, 0, 1⟩, 0⟩
    outcome.exitCode = 0 ∧
      (outcome.workspace.readText "files.txt").toOption =
        some (Manifest.format ["backend/a\\b.js"]) ∧
      (AuditArguments.ofManifest "files.txt" none .text false).Reports
        options outcome.workspace report ∧
      ¬report.Covers ["backend/a\\b.js"] := by
  refine ⟨?_, ?_, ⟨?_, ?_, ?_⟩, ?_⟩
  · decide +kernel
  · decide +kernel
  · exact AuditArguments.workspace_run_ofManifest _ _ _ _ _ _
  · decide +kernel
  · decide +kernel
  · intro covers
    cases covers.rows

-- Of a malformed name a replacement is listed, and no such file is found.
example :
    letI : Glob.Engine := .standard
    let name : Bytes := 0xFF :: Utf8.encode ".js"
    let workspace : Workspace :=
      ⟨.directory [("backend", .directory [(name, .file { content := [] })])],
        [], none⟩
    let arguments : ManifestArguments :=
      ⟨[], none, ".", none, [], false, some "files.txt"⟩
    let after := (arguments.run ⟨0, false, .auto, true⟩ workspace).workspace
    (after.readText "files.txt").toOption =
        some (Manifest.format ["backend/\uFFFD.js"]) ∧
      after.contentSource [Path.dot] "backend/\uFFFD.js" = .missing := by
  decide +kernel

end AccessAudit
