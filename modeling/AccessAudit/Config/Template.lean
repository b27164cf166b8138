import AccessAudit.Config

/-!
# The starter configuration

The text of a new configuration file: all settings with their meaning, and
the usual build directories among the exclude patterns.
-/

namespace AccessAudit

namespace Config

/-- A key with a value between quotes. -/
def textSetting (key value : Text) : Text :=
  key ++ " = \"" ++ value ++ "\""

def headLines : List Text := [
  "# rbac-audit configuration file",
  textSetting "version" supportedVersion]

def manifestLines : List Text := [
  "[manifest]",
  "# Manifest listing one path per line, optionally as \"12→path\"",
  textSetting "path" defaultManifestPath,
  "",
  "# Skip lines without the \"N→\" prefix. Set to false to accept bare paths.",
  "strict_line_numbers = true",
  "",
  "# Directory manifest paths resolve against " ++
    "(default: the manifest's directory)",
  "# root = \".\""]

def outputLines : List Text := [
  "[output]",
  "# Report files written by `rbac-audit audit` (skip both with --no-reports)",
  textSetting "csv" defaultCsvPath,
  textSetting "summary" defaultSummaryPath]

/-- The lines on the directories and files that are listed. -/
def scanLines : List Text := [
  "[scan]",
  "# Directories walked by `rbac-audit manifest`",
  "roots = [\"backend\", \"react\"]",
  "",
  "# Source file extensions to include",
  "extensions = [\"js\", \"jsx\", \"ts\", \"tsx\", \"mjs\", \"cjs\"]",
  "",
  "# Respect .gitignore files under each root",
  "gitignore = true"]

/-- The lines on the exclude patterns. -/
def excludeLines : List Text := [
  "# Exclude patterns (glob syntax)",
  "exclude = [",
  "    \"**/node_modules/**\",",
  "    \"**/dist/**\",",
  "    \"**/build/**\",",
  "]"]

/-- The starter configuration, with an empty line between its parts. -/
def template : Text :=
  Text.joinWith "\n"
    ([headLines, manifestLines, outputLines, scanLines, excludeLines].map
      (·.flatMap Text.line))

end Config

end AccessAudit
