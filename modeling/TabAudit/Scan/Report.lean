import TabAudit.Position.Tracker
/-!
# What a scan reports

Every file that was looked at has a status; one with tabs has their positions.
-/

namespace TabAudit

/-- How the check of a file ended. -/
inductive FileStatus where
  | clean
  | tabsFound
  | binary
  | undecodable
  | unreadable
  deriving DecidableEq, Repr

namespace FileStatus

/-- The name of a status. -/
def name : FileStatus → String
  | clean => "clean"
  | tabsFound => "tabs_found"
  | binary => "binary"
  | undecodable => "undecodable"
  | unreadable => "unreadable"

/-- Every status. -/
def all : List FileStatus := [clean, tabsFound, binary, undecodable, unreadable]

end FileStatus

/-- A file that was looked at. `path` is relative to the root of the scan. -/
structure CheckedFile where
  path : String
  status : FileStatus
  tabs : List Position
  deriving DecidableEq, Repr

/-- The result of a scan: its root, the files in the order of the scan, and how many files and
directories were left out. -/
structure ScanReport where
  root : List String
  files : List CheckedFile
  excluded : Nat
  deriving DecidableEq, Repr

namespace ScanReport

/-- The number of files with a status. -/
def count (r : ScanReport) (status : FileStatus) : Nat :=
  r.files.countP (·.status = status)

/-- The files with tabs. -/
def filesWithTabs (r : ScanReport) : List CheckedFile :=
  r.files.filter (·.status = .tabsFound)

/-- The number of tabs in all files. -/
def totalTabs (r : ScanReport) : Nat :=
  r.files.foldl (fun n file => n + file.tabs.length) 0

/-- Whether any file has tabs. -/
def hasTabs (r : ScanReport) : Bool :=
  r.files.any (·.status = .tabsFound)

end ScanReport

end TabAudit
