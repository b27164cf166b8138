import AccessAudit.Proofs.Command.Repetition
import AccessAudit.Proofs.FileSystem.FileSet
import AccessAudit.Proofs.FileSystem.WellFormed
import AccessAudit.Proofs.Text.Utf8

/-!
# Files on disk and in memory

A set of files can be held in memory, with the directories above them marked
as unreadable, or laid out below a root.  Every plain path has the same
content in both, and so both lead to the same report.
-/

namespace AccessAudit

namespace FileSet

/-- The files held in memory. -/
def source (set : FileSet) : ContentSource :=
  memorySource set.files set.directories

variable {set : FileSet} {file : Text × Text} {path : Text}

theorem source_of_file (member : file ∈ set.files) :
    set.source file.1 = .text file.2 := by
  have noDirectory : file.1 ∉ set.directories := by
    rw [mem_directories_iff]
    rintro ⟨other, isFile, start, shorter⟩
    rw [set.apart file member other isFile start] at shorter
    exact shorter rfl
  have found := Node.lookup_of_mem set.distinct member
  simp [source, memorySource, noDirectory, found]

theorem source_of_directory (member : path ∈ set.directories) :
    set.source path = .unreadable := by
  simp [source, memorySource, member]

theorem source_of_absent (noDirectory : path ∉ set.directories)
    (noFile : ∀ file ∈ set.files, file.1 ≠ path) :
    set.source path = .missing := by
  have notFound : set.files.lookup path = none := by
    rw [List.lookup_eq_none_iff]
    intro file member
    simpa using (noFile file member).symm
  simp [source, memorySource, noDirectory, notFound]

/-- What a plain path has on disk is what it has in memory. -/
theorem LaidOut.contentSource_eq_source {workspace : Workspace}
    {location : Location} (laidOut : set.LaidOut workspace location)
    {root : Bytes} (leads : workspace.Leads root location)
    (plain : Path.Plain path) :
    workspace.contentSource root path = set.source path := by
  rw [Workspace.contentSource_eq,
    leads.seenAt?_join plain (laidOut.clearBelow plain)]
  cases seen : workspace.tree.look
      (location ++ Text.pieces Path.slash path) with
  | none =>
      symm
      apply source_of_absent
      · intro isDirectory
        rw [laidOut.look_of_directory isDirectory] at seen
        cases seen
      · rintro file isFile rfl
        obtain ⟨stored, isThere, _⟩ := laidOut.file file isFile
        cases isThere.symm.trans seen
  | some found =>
      rcases laidOut.file_or_directory plain (by simp [seen]) with
        ⟨file, isFile, rfl⟩ | isDirectory
      · obtain ⟨stored, isThere, read⟩ := laidOut.file file isFile
        cases isThere.symm.trans seen
        simp only [Surface.content?, read, Except.toOption,
          Utf8.decodeLossy_encode]
        exact (source_of_file isFile).symm
      · rw [laidOut.look_of_directory isDirectory] at seen
        cases seen
        exact (source_of_directory isDirectory).symm

end FileSet

/-- A source that reads files from disk gives each plain path the content that
a source with the same files in memory gives it.  So a manifest of plain paths
leads to the same report. -/
theorem disk_source_refines_memory {set : FileSet} {workspace : Workspace}
    {root : Bytes} {location : Location}
    (leads : workspace.Leads root location)
    (laidOut : set.LaidOut workspace location) :
    (∀ path : Text, Path.Plain path →
      workspace.contentSource root path = set.source path) ∧
    ∀ manifest : Manifest,
      (∀ entry ∈ manifest.entries, Path.Plain entry.path) →
        Report.ofManifest (workspace.contentSource root) manifest =
          Report.ofManifest set.source manifest := by
  constructor
  · intro path plain
    exact laidOut.contentSource_eq_source leads plain
  · intro manifest plain
    apply Report.ofManifest_congr
    intro entry member
    exact laidOut.contentSource_eq_source leads (plain entry member)

/-- A file, a directory above it, a path through it and an absent path. -/
theorem disk_source_of_two_files :
    let files : List (Text × Text) :=
      [("backend/a.js", "one"), ("backend/routes/b.js", "two")]
    let workspace : Workspace := ⟨Node.ofFiles files, [], none⟩
    let source := workspace.contentSource "/"
    source "backend/a.js" = .text "one" ∧
      source "backend/routes" = .unreadable ∧
      source "backend/a.js/c.js" = .missing ∧
      source "react/d.js" = .missing := by
  intro files workspace source
  let set : FileSet :=
    ⟨files, by decide +kernel, by decide, by decide +kernel⟩
  have leads : workspace.Leads "/" [] := .resolved rfl
  have agrees := (disk_source_refines_memory leads set.laidOut_ofFiles).1
  refine ⟨?_, ?_, ?_, ?_⟩
  · exact (agrees "backend/a.js" (by decide +kernel)).trans
      (by decide +kernel)
  · exact (agrees "backend/routes" (by decide +kernel)).trans
      (by decide +kernel)
  · exact (agrees "backend/a.js/c.js" (by decide +kernel)).trans
      (by decide +kernel)
  · exact (agrees "react/d.js" (by decide +kernel)).trans
      (by decide +kernel)

end AccessAudit
