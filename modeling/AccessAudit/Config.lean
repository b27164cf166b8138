import AccessAudit.Filter

/-!
# Configuration

Where the manifest, the reports and the scanned directories are.  The default
values of the fields are the settings where nothing is configured.
-/

namespace AccessAudit

def defaultManifestPath : Text := "files.txt"

def defaultCsvPath : Text := "files_status_detailed.csv"

def defaultSummaryPath : Text := "rbac_summary.txt"

def defaultRoots : List Text := ["backend", "react"]

def defaultExclude : List Text := ["**/node_modules/**"]

/-- Where the manifest lives and how strictly it is read. -/
structure ManifestSettings where
  path : Text := defaultManifestPath
  /-- Is a line without a line number malformed? -/
  strictLineNumbers : Bool := true
  /-- The directory in which listed paths begin. -/
  root : Option Text := none
deriving DecidableEq, Repr

/-- The report files of an audit, where they are written at all. -/
structure OutputSettings where
  csv : Option Text := some defaultCsvPath
  summary : Option Text := some defaultSummaryPath
deriving DecidableEq, Repr

/-- What is listed in a generated manifest. -/
structure ScanSettings where
  roots : List Text := defaultRoots
  extensions : List Text := defaultExtensions
  exclude : List Text := defaultExclude
  gitignore : Bool := true
deriving DecidableEq, Repr

structure Config where
  version : Option Text := none
  manifest : ManifestSettings := {}
  output : OutputSettings := {}
  scan : ScanSettings := {}
deriving DecidableEq, Repr

namespace Config

/-- The one supported version. -/
def supportedVersion : Text := "1"

/-- The configuration file that is looked up in the current directory. -/
def fileName : Text := ".rbac-audit.toml"

end Config

end AccessAudit
