import AccessAudit.Command.Audit
import AccessAudit.Proofs.FileSystem.Frame

/-!
# What commands read

A configuration, a manifest and the files of its entries are read at certain
paths.  What is read there depends only on what these paths lead to.
-/

namespace AccessAudit

namespace Workspace

variable {workspace other : Workspace} {path : Bytes}

theorem readText_eq_ok_iff {text : Text} :
    workspace.readText path = .ok text ↔
      ∃ content, workspace.contentAt? path = some content ∧
        Utf8.decode? content = some text := by
  simp only [← read_eq_ok_iff, readText]
  cases workspace.read path with
  | error problem => simp
  | ok content =>
      cases decoded : Utf8.decode? content <;> simp [decoded]

theorem contentSource_eq (workspace : Workspace) (root : Bytes)
    (path : Text) :
    workspace.contentSource root path =
      match workspace.seenAt? (Path.join root path) with
      | none => .missing
      | some found =>
          match found.content? with
          | some content => .text (Utf8.decodeLossy content)
          | none => .unreadable := by
  have read := workspace.toOption_read (Path.join root path)
  simp only [contentSource, pathExists_eq]
  rw [contentAt?] at read
  cases seen : workspace.seenAt? (Path.join root path) with
  | none => rfl
  | some found =>
      rw [seen, Option.bind_some] at read
      simp only [← read]
      cases workspace.read (Path.join root path) <;> rfl

theorem contentSource_of_seenAt {root : Bytes} {path : Text}
    (same : other.seenAt? (Path.join root path) =
      workspace.seenAt? (Path.join root path)) :
    other.contentSource root path = workspace.contentSource root path := by
  rw [contentSource_eq, contentSource_eq, same]

theorem loadManifest_eq_ok_iff {mode : ManifestMode} {manifest : Manifest} :
    workspace.loadManifest path mode = .ok manifest ↔
      ∃ content, workspace.contentAt? path = some content ∧
        Manifest.parse (Utf8.decodeLossy content) mode = manifest := by
  rw [loadManifest]
  cases isFile : workspace.isFile path with
  | false =>
      refine iff_of_false (by simp) ?_
      rintro ⟨content, readable, _⟩
      rw [isFile_of_contentAt readable] at isFile
      cases isFile
  | true =>
      simp only [← read_eq_ok_iff, Bool.not_true, Bool.false_eq_true,
        if_false]
      cases workspace.read path <;> simp

theorem loadManifest_of_seenAt {mode : ManifestMode} {manifest : Manifest}
    (same : other.seenAt? path = workspace.seenAt? path)
    (loaded : workspace.loadManifest path mode = .ok manifest) :
    other.loadManifest path mode = .ok manifest := by
  rw [loadManifest_eq_ok_iff, contentAt?] at loaded ⊢
  rwa [same]

/-- The configuration file at which a command looks: the given one, or else
the usual one. -/
def configFile? (workspace : Workspace) (options : GlobalOptions)
    (path : Option Text) : Option Bytes :=
  if options.noConfig then none
  else
    match path with
    | some path => some path
    | none => some (Path.join workspace.currentPath Config.fileName)

theorem loadFrom_eq_ok_iff {config : Config} :
    Config.loadFrom workspace.configSource path = .ok config ↔
      ∃ content text, workspace.contentAt? path = some content ∧
        Utf8.decode? content = some text ∧ Config.ofText text = .ok config := by
  have readable := @readText_eq_ok_iff workspace path
  simp only [Config.loadFrom, configSource]
  cases read : workspace.readText path with
  | ok text =>
      obtain ⟨content, seen, decoded⟩ := readable.mp read
      simp [seen, decoded]
  | error problem =>
      refine iff_of_false nofun ?_
      rintro ⟨content, text, seen, decoded, _⟩
      rw [readable.mpr ⟨content, seen, decoded⟩] at read
      cases read

theorem load_eq_ok_iff {config : Config} {file : Bytes}
    (usual : Path.join workspace.currentPath Config.fileName = file) :
    Config.load workspace.configSource = .ok config ↔
      (workspace.seenAt? file = none ∧ {} = config) ∨
      ∃ content text, workspace.contentAt? file = some content ∧
        Utf8.decode? content = some text ∧
        Config.ofText text = .ok config := by
  have load : Config.load workspace.configSource =
      if workspace.pathExists file then
        Config.loadFrom workspace.configSource file
      else .ok {} := by
    rw [← usual]
    rfl
  rw [load, pathExists_eq, contentAt?]
  cases seen : workspace.seenAt? file with
  | none =>
      simp only [Option.isSome_none, Bool.false_eq_true, if_false,
        Except.ok.injEq, true_and, Option.bind_none, reduceCtorEq, false_and,
        exists_false, or_false]
  | some surface =>
      simp only [Option.isSome_some, if_true, loadFrom_eq_ok_iff, contentAt?,
        seen, reduceCtorEq, false_and, false_or]

/-- Without a configuration file the defaults are loaded, as long as no file
is given. -/
theorem loadConfig_eq_ok_iff {options : GlobalOptions} {given : Option Text}
    {config : Config} :
    workspace.loadConfig options given = .ok config ↔
      match workspace.configFile? options given with
      | none => {} = config
      | some file =>
          (given = none ∧ workspace.seenAt? file = none ∧ {} = config) ∨
          ∃ content text, workspace.contentAt? file = some content ∧
            Utf8.decode? content = some text ∧
            Config.ofText text = .ok config := by
  cases noConfig : options.noConfig with
  | true => simp [loadConfig, configFile?, noConfig]
  | false =>
      cases given with
      | none => simp [loadConfig, configFile?, noConfig, load_eq_ok_iff rfl]
      | some file =>
          simp [loadConfig, configFile?, noConfig, loadFrom_eq_ok_iff]

/-- A configuration is loaded again where its file has not changed. -/
theorem loadConfig_of_seenAt {options : GlobalOptions} {given : Option Text}
    {config : Config} (current : other.current = workspace.current)
    (same : ∀ file, workspace.configFile? options given = some file →
      other.seenAt? file = workspace.seenAt? file)
    (loaded : workspace.loadConfig options given = .ok config) :
    other.loadConfig options given = .ok config := by
  have sameFile : other.configFile? options given =
      workspace.configFile? options given := by
    simp only [configFile?, currentPath, current]
  rw [loadConfig_eq_ok_iff] at loaded ⊢
  rw [sameFile]
  cases isFile : workspace.configFile? options given with
  | none => rwa [isFile] at loaded
  | some file =>
      rw [isFile] at loaded
      simpa only [contentAt?, same file isFile] using loaded

end Workspace

end AccessAudit
