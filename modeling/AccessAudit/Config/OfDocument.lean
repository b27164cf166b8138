import AccessAudit.Config
import AccessAudit.Failure
import AccessAudit.Toml.Document

/-!
# Configurations from documents

A document is laid over the defaults, setting by setting.  It is refused for
the first value, in document order, that has not the type of its key, and
after that for its version.  Unknown keys are allowed everywhere.
-/

namespace AccessAudit

namespace Config

open Toml (Document Value)

/-- What a key asks of a single value. -/
inductive Expected
  | string
  | path
  | boolean
deriving DecidableEq, Repr

/-- What a key asks of its value. -/
inductive FieldType
  | one (expected : Expected)
  | many (expected : Expected)
deriving DecidableEq, Repr

/-- A section with its keys, in the order in which an array lists them. -/
structure SectionType where
  name : Text
  title : Text
  fields : List (Text × FieldType)

def manifestSection : SectionType where
  name := "manifest"
  title := "ManifestConfig"
  fields := [
    ("path", .one .path),
    ("strict_line_numbers", .one .boolean),
    ("root", .one .path)]

def outputSection : SectionType where
  name := "output"
  title := "OutputConfig"
  fields := [("csv", .one .path), ("summary", .one .path)]

def scanSection : SectionType where
  name := "scan"
  title := "ScanConfig"
  fields := [
    ("roots", .many .path),
    ("extensions", .many .string),
    ("exclude", .many .string),
    ("gitignore", .one .boolean)]

def sections : List SectionType :=
  [manifestSection, outputSection, scanSection]

/-! ## Types -/

def Expected.wording : Expected → Text
  | .string => "a string"
  | .path => "path string"
  | .boolean => "a boolean"

/-- The problem with a value that is not what is expected.  A number that is
too large is a problem of its own. -/
def unexpected (value : Value) (wording : Text) : ConfigProblem :=
  if value.isOutOfRange then .other value.rangeMessage
  else .wrongType value.description wording

/-- The problem with a single value. -/
def Expected.problem? (expected : Expected) (value : Value) :
    Option ConfigProblem :=
  match expected, value with
  | .string, .string _ | .path, .string _ | .boolean, .boolean _ => none
  | _, value => some (unexpected value expected.wording)

/-- The problem with the value of a key. -/
def FieldType.problem? (type : FieldType) (value : Value) :
    Option ConfigProblem :=
  match type, value with
  | .one expected, value => expected.problem? value
  | .many expected, .array items => items.findSome? expected.problem?
  | .many _, value => some (unexpected value "a sequence")

/-- The problem with a value that no key asks for. -/
def ignoredProblem? (value : Value) : Option ConfigProblem :=
  value.firstOutOfRange?.map fun number => .other number.rangeMessage

/-- The entries of a section.  An array gives the values of the keys in their
order, without those that are missing or too many.  A date has no entry. -/
def SectionType.entries? (type : SectionType) :
    Value → Option (List (Text × Value))
  | .table entries => some entries
  | .array items => some ((type.fields.map (·.1)).zip items)
  | .dateTime _ => some []
  | _ => none

/-- The problem with one entry of a section. -/
def SectionType.entryProblem? (type : SectionType)
    (entry : Text × Value) : Option ConfigProblem :=
  match type.fields.lookup entry.1 with
  | some field => field.problem? entry.2
  | none => ignoredProblem? entry.2

/-- The first problem of a section. -/
def SectionType.problem? (type : SectionType) (value : Value) :
    Option ConfigProblem :=
  match type.entries? value with
  | some entries => entries.findSome? type.entryProblem?
  | none => some (unexpected value ("struct " ++ type.title))

/-- The problem with one entry at the top of a document. -/
def entryProblem? (entry : Text × Value) : Option ConfigProblem :=
  if entry.1 = "version".toList then Expected.string.problem? entry.2
  else
    match sections.find? (·.name = entry.1) with
    | some type => type.problem? entry.2
    | none => ignoredProblem? entry.2

/-- The first problem of a document. -/
def problem? (document : Document) : Option ConfigProblem :=
  document.findSome? entryProblem?

/-! ## Settings -/

/-- The default of a switch. -/
def defaultSwitch : Bool := true

/-- The text that a value holds. -/
def textOf? : Value → Option Text
  | .string value => some value
  | _ => none

/-- The switch that a value holds. -/
def switchOf? : Value → Option Bool
  | .boolean value => some value
  | _ => none

/-- The texts that a value holds. -/
def textsOf? : Value → Option (List Text)
  | .array items => items.mapM textOf?
  | _ => none

/-- The text that a value holds for a setting that may be missing. -/
def optionalTextOf? (value : Value) : Option (Option Text) :=
  (textOf? value).map some

/-- What a key holds, or a default where it is missing. -/
def setting {α : Type} (entries : List (Text × Value)) (key : Text)
    (read : Value → Option α) (default : α) : α :=
  ((entries.lookup key).bind read).getD default

/-- The settings of a section that is there.  Each key has a default of its
own. -/
def manifestSettings (entries : List (Text × Value)) : ManifestSettings where
  path := setting entries "path" textOf? defaultManifestPath
  strictLineNumbers :=
    setting entries "strict_line_numbers" switchOf? defaultSwitch
  root := setting entries "root" optionalTextOf? none

def outputSettings (entries : List (Text × Value)) : OutputSettings where
  csv := setting entries "csv" optionalTextOf? (some defaultCsvPath)
  summary :=
    setting entries "summary" optionalTextOf? (some defaultSummaryPath)

def scanSettings (entries : List (Text × Value)) : ScanSettings where
  roots := setting entries "roots" textsOf? defaultRoots
  extensions := setting entries "extensions" textsOf? defaultExtensions
  exclude := setting entries "exclude" textsOf? defaultExclude
  gitignore := setting entries "gitignore" switchOf? defaultSwitch

/-- The settings of a section, or the standard ones where it is missing. -/
def SectionType.settingsIn {α : Type} (type : SectionType)
    (document : Document) (settings : List (Text × Value) → α)
    (standard : α) : α :=
  match (document.lookup type.name).bind type.entries? with
  | some entries => settings entries
  | none => standard

/-- The settings of a document laid over the defaults. -/
def overlay (document : Document) : Config where
  version := setting document "version" optionalTextOf? none
  manifest := manifestSection.settingsIn document manifestSettings {}
  output := outputSection.settingsIn document outputSettings {}
  scan := scanSection.settingsIn document scanSettings {}

/-- The failure for a version that is not supported. -/
def unsupportedVersion (version : Text) : Failure :=
  .config ("Unsupported config version '" ++ version ++
    "'. Only version '" ++ supportedVersion ++ "' is supported.")

/-- The configuration of a document.  A value of a wrong type is reported
even if the version is not supported either. -/
def ofDocument (document : Document) : Except Failure Config :=
  match problem? document with
  | some problem => .error (.unreadableConfig problem)
  | none =>
      let config := overlay document
      match config.version with
      | none => .ok config
      | some version =>
          if version = supportedVersion then .ok config
          else .error (unsupportedVersion version)

end Config

end AccessAudit
