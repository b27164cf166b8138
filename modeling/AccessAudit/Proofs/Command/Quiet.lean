import AccessAudit.Command.Run
import AccessAudit.Proofs.CommandLine.FrontFlag

/-!
# Quiet mode

An audit and the listing of a new manifest take the same course in quiet mode
as without it: they read and write the same and come to the same end.  Quiet
mode decides only which part of the course is told.  So it is for every place
at which the quiet flag is added to a command line.
-/

namespace AccessAudit

/-- Does the diagnostic tell of a failure? -/
def Diagnostic.isError (diagnostic : Diagnostic) : Bool :=
  match diagnostic.headline with
  | .error _ => true
  | .warning | .info => false

/-- None of the diagnostics tells of a failure. -/
def AreNotes (diagnostics : List Diagnostic) : Prop :=
  ∀ diagnostic ∈ diagnostics, diagnostic.isError = false

/-- What a command does, with all that it can tell. -/
inductive Course
  | fails (workspace : Workspace) (notes : List Diagnostic)
      (areNotes : AreNotes notes) (failure : Failure)
  | ends (workspace : Workspace) (notes : List Diagnostic)
      (areNotes : AreNotes notes) (output : Text) (exitCode : Nat)
      (success : exitCode ≠ Outcome.failureCode)

/-- What is told of a course. -/
def Course.outcome (quiet : Bool) : Course → Outcome
  | .fails workspace notes _ failure =>
      .failed workspace (if quiet then [] else notes) failure
  | .ends workspace notes _ output exitCode _ =>
      ⟨workspace, if quiet then [] else output, if quiet then [] else notes,
        exitCode⟩

/-- The quiet outcome is the loud one without its output and its notes.  If
the command fails, what is left is the one block that tells of the failure,
and nothing is left otherwise. -/
structure Outcome.Hushes (loud quiet : Outcome) : Prop where
  exitCode : quiet.exitCode = loud.exitCode
  workspace : quiet.workspace = loud.workspace
  output : quiet.output = []
  diagnostics : quiet.diagnostics = loud.diagnostics.filter (·.isError)
  success : loud.exitCode ≠ failureCode → quiet.errorOutput = []
  failure : loud.exitCode = failureCode →
    ∃ notes failure, AreNotes notes ∧
      loud.diagnostics = notes ++ [Failure.diagnostic failure] ∧
      quiet.errorOutput = failure.diagnostic.render false

namespace AreNotes

theorem nil : AreNotes [] := by simp [AreNotes]

theorem append {first second : List Diagnostic} (left : AreNotes first)
    (right : AreNotes second) : AreNotes (first ++ second) :=
  List.forall_mem_append.mpr ⟨left, right⟩

theorem cons {note : Diagnostic} {notes : List Diagnostic}
    (first : note.isError = false) (later : AreNotes notes) :
    AreNotes (note :: notes) :=
  List.forall_mem_cons.mpr ⟨first, later⟩

theorem filter_isError {notes : List Diagnostic} (areNotes : AreNotes notes) :
    notes.filter (·.isError) = [] := by
  rw [List.filter_eq_nil_iff]
  intro note member
  simp [areNotes note member]

end AreNotes

/-- Told quietly and told as a whole, a course differs in its notes and its
output alone. -/
theorem Course.hushes (course : Course) :
    (course.outcome false).Hushes (course.outcome true) := by
  cases course with
  | fails workspace notes areNotes failure =>
      have isError : failure.diagnostic.isError = true := rfl
      constructor
      · rfl
      · rfl
      · rfl
      · simp [outcome, Outcome.failed, areNotes.filter_isError, isError]
      · intro succeeds
        exact absurd rfl succeeds
      · intro _
        refine ⟨notes, failure, areNotes, rfl, ?_⟩
        simp [outcome, Outcome.failed, Outcome.errorOutput]
  | ends workspace notes areNotes output exitCode success =>
      constructor
      · rfl
      · rfl
      · rfl
      · simp [outcome, areNotes.filter_isError]
      · intro _
        rfl
      · intro fails
        exact absurd fails success

/-! ## The notes of the commands -/

theorem Manifest.areNotes_warnings (manifest : Manifest) :
    AreNotes manifest.warnings := by
  rw [warnings]
  split
  · exact .nil
  · exact .cons rfl .nil

namespace Workspace

theorem areNotes_notices (workspace : Workspace) (files : List FileOutput) :
    AreNotes (workspace.writeFiles files).notices := by
  induction files generalizing workspace with
  | nil => exact .nil
  | cons file files ih =>
      rw [writeFiles]
      simp only
      split
      · exact .nil
      · apply AreNotes.append
        · cases file.notice with
          | none => exact .nil
          | some notice => exact .cons rfl .nil
        · exact ih _

theorem areNotes_warnings_collect (workspace : Workspace)
    (scanRoot : Bytes → Except AccessProblem (List Bytes))
    (passOverMissing : Bool) (roots : List Bytes) :
    AreNotes
      (workspace.collect scanRoot passOverMissing roots).warnings := by
  induction roots with
  | nil => exact .nil
  | cons root rest ih =>
      rw [collect]
      split
      · exact .cons rfl ih
      · split
        · exact .nil
        · exact ih

end Workspace

/-! ## The courses of the commands -/

/-- The configuration does not depend on quiet mode. -/
theorem Workspace.loadConfig_quiet (workspace : Workspace)
    (options : GlobalOptions) (path : Option Text) (quiet : Bool) :
    workspace.loadConfig { options with quiet := quiet } path =
      workspace.loadConfig options path :=
  rfl

theorem AuditArguments.exitCode_ne_failureCode
    (arguments : AuditArguments) (report : Report) :
    arguments.exitCode report ≠ Outcome.failureCode := by
  rw [exitCode]
  split <;> decide

/-- An audit takes its course whether it is quiet or not. -/
theorem AuditArguments.exists_course (arguments : AuditArguments)
    (options : GlobalOptions) (workspace : Workspace) :
    ∃ course : Course, ∀ quiet,
      arguments.run { options with quiet := quiet } workspace =
        course.outcome quiet := by
  cases loaded : workspace.loadConfig options arguments.config with
  | error failure =>
      refine ⟨.fails workspace [] .nil failure, fun quiet => ?_⟩
      simp [run, Workspace.loadConfig_quiet, loaded, Course.outcome]
  | ok config =>
      cases parsed : workspace.loadManifest
          (AuditSettings.resolve arguments config).manifest
          (AuditSettings.resolve arguments config).mode with
      | error failure =>
          refine ⟨.fails workspace [] .nil failure, fun quiet => ?_⟩
          simp [run, Workspace.loadConfig_quiet, loaded, parsed, Course.outcome]
      | ok manifest =>
          let report := Report.ofManifest (workspace.contentSource
            (AuditSettings.resolve arguments config).root) manifest
          let rendered := report.render arguments.format options.verbosity
            (options.color == .always)
          let shown : Option FileOutput :=
            arguments.output.map fun path => ⟨path, rendered, none⟩
          let writing := workspace.writeFiles
            ((AuditSettings.resolve arguments config).reportFiles report ++
              shown.toList)
          have areNotes : AreNotes (manifest.warnings ++ writing.notices) :=
            .append manifest.areNotes_warnings
              (workspace.areNotes_notices _)
          cases written : writing.failure with
          | some failure =>
              refine ⟨.fails writing.workspace _ areNotes failure,
                fun quiet => ?_⟩
              simp only [writing, shown, rendered, report] at written ⊢
              simp only [run, Workspace.loadConfig_quiet, loaded, parsed,
                written, Course.outcome, unlessQuiet]
          | none =>
              refine ⟨.ends writing.workspace _ areNotes
                (if shown.isSome then [] else rendered)
                (arguments.exitCode report)
                (arguments.exitCode_ne_failureCode report),
                fun quiet => ?_⟩
              simp only [writing, shown, rendered, report] at written ⊢
              simp only [run, Workspace.loadConfig_quiet, loaded, parsed,
                written, Course.outcome, unlessQuiet]
              cases quiet <;> simp

/-- The listing of a new manifest takes its course whether it is quiet or
not. -/
theorem ManifestArguments.exists_course [Glob.Engine]
    (arguments : ManifestArguments) (options : GlobalOptions)
    (workspace : Workspace) :
    ∃ course : Course, ∀ quiet,
      arguments.run { options with quiet := quiet } workspace =
        course.outcome quiet := by
  cases loaded : workspace.loadConfig options arguments.config with
  | error failure =>
      refine ⟨.fails workspace [] .nil failure, fun quiet => ?_⟩
      simp [run, Workspace.loadConfig_quiet, loaded, Course.outcome]
  | ok config =>
      cases built : arguments.filter config with
      | error failure =>
          refine ⟨.fails workspace [] .nil failure, fun quiet => ?_⟩
          simp [run, Workspace.loadConfig_quiet, loaded, built, Course.outcome]
      | ok filter =>
          let collection := workspace.collect
            (workspace.scan filter
              (config.scan.gitignore && !arguments.noGitignore))
            arguments.paths.isEmpty (arguments.roots config)
          have scanned : AreNotes collection.warnings :=
            workspace.areNotes_warnings_collect _ _ _
          cases collected : collection.files with
          | error failure =>
              refine ⟨.fails workspace _ scanned failure, fun quiet => ?_⟩
              simp only [collection] at collected ⊢
              simp only [run, Workspace.loadConfig_quiet, loaded, built,
                collected, Course.outcome, unlessQuiet]
          | ok files =>
              let paths := manifestPaths arguments.base files
              let content := Manifest.format paths
              let shown : Option FileOutput := arguments.output.map fun path =>
                ⟨path, content, some ("Wrote " ++ Text.ofNat paths.length ++
                  " paths to " ++ path)⟩
              let writing := workspace.writeFiles shown.toList
              have areNotes :
                  AreNotes (collection.warnings ++ writing.notices) :=
                scanned.append (workspace.areNotes_notices _)
              cases written : writing.failure with
              | some failure =>
                  refine ⟨.fails writing.workspace _ areNotes failure,
                    fun quiet => ?_⟩
                  simp only [collection, writing, shown, content, paths]
                    at collected written ⊢
                  simp only [run, Workspace.loadConfig_quiet, loaded, built,
                    collected, written, Course.outcome, unlessQuiet]
              | none =>
                  refine ⟨.ends writing.workspace _ areNotes
                    (if shown.isSome then [] else content) 0 (by decide),
                    fun quiet => ?_⟩
                  simp only [collection, writing, shown, content, paths]
                    at collected written ⊢
                  simp only [run, Workspace.loadConfig_quiet, loaded, built,
                    collected, written, Course.outcome, unlessQuiet]
                  cases quiet <;> simp

/-! ## Command lines -/

/-- The command is an audit or lists a new manifest. -/
inductive Command.HasCourse : Command → Prop
  | audit (arguments : AuditArguments) : HasCourse (.audit arguments)
  | manifest (arguments : ManifestArguments) : HasCourse (.manifest arguments)

/-- Asked for in quiet mode, a command hushes what it does otherwise. -/
theorem Invocation.run_hushes [Glob.Engine] {loud : Invocation}
    (hasCourse : loud.command.HasCourse)
    (isLoud : loud.options.quiet = false) (workspace : Workspace) :
    (loud.run workspace).Hushes
      (run { loud with options := { loud.options with quiet := true } }
        workspace) := by
  obtain ⟨options, command⟩ := loud
  have sameOptions : { options with quiet := false } = options := by
    rw [← isLoud]
  cases hasCourse with
  | audit arguments =>
      obtain ⟨course, isCourse⟩ := arguments.exists_course options workspace
      have loudCourse := isCourse false
      rw [sameOptions] at loudCourse
      simp only [run, loudCourse, isCourse true]
      exact course.hushes
  | manifest arguments =>
      obtain ⟨course, isCourse⟩ := arguments.exists_course options workspace
      have loudCourse := isCourse false
      rw [sameOptions] at loudCourse
      simp only [run, loudCourse, isCourse true]
      exact course.hushes

open CommandLine

/-- The quiet flag can be added to a command line at least in front.  At any
place where it is accepted as a flag, it hushes what the command does and
changes nothing else. -/
theorem quietFlag_hushes [Glob.Engine] {arguments : List Text}
    {loud : Invocation}
    (parses : Invocation.parse arguments = .ok loud)
    (isLoud : loud.options.quiet = false)
    (hasCourse : loud.command.HasCourse) :
    (∃ quiet, Invocation.parse (quietFlag :: arguments) = .ok quiet) ∧
      ∀ before after quiet, arguments = before ++ after →
        separator ∉ before →
        Invocation.parse (before ++ quietFlag :: after) = .ok quiet →
        ∀ workspace, (loud.run workspace).Hushes (quiet.run workspace) := by
  constructor
  · exact Invocation.exists_parse_quietFlag parses isLoud
  · intro before after quiet same inFront quietParses workspace
    rw [same] at parses
    rw [Invocation.eq_of_parse_quietFlag inFront parses quietParses]
    exact Invocation.run_hushes hasCourse isLoud workspace

/-- An audit whose manifest does not exist fails, with a flag between the
operands and the other options as well. -/
theorem quietFlag_hushes_failing_audit :
    letI : Glob.Engine := .standard
    let loud : List Text := ["audit", "files.txt", "--no-config"]
    let quiet : List Text := ["audit", "files.txt", "-q", "--no-config"]
    let workspace : Workspace := ⟨.directory [], [], none⟩
    ∃ loudAsked quietAsked, Invocation.parse loud = .ok loudAsked ∧
      Invocation.parse quiet = .ok quietAsked ∧
      (loudAsked.run workspace).exitCode = Outcome.failureCode ∧
      (loudAsked.run workspace).Hushes (quietAsked.run workspace) := by
  let _ : Glob.Engine := .standard
  intro loud quiet workspace
  let arguments : AuditArguments :=
    ⟨some "files.txt", none, none, none, none, .text, none, false, false,
      false⟩
  have parses : Invocation.parse loud =
      .ok ⟨⟨0, false, .auto, true⟩, .audit arguments⟩ := by
    rfl
  have quietParses : Invocation.parse quiet =
      .ok ⟨⟨0, true, .auto, true⟩, .audit arguments⟩ := by
    rfl
  refine ⟨_, _, parses, quietParses, by decide +kernel, ?_⟩
  exact (quietFlag_hushes parses rfl (.audit arguments)).2
    ["audit", "files.txt"] ["--no-config"] _ rfl (by decide) quietParses
    workspace

end AccessAudit
