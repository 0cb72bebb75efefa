import TabAudit.Command.Arguments
import TabAudit.Command.Outcome
/-!
# The command that checks a tree

The settings come from the defaults, a file, the environment and the command line, and the last of
them that names one counts; only the exclusion globs of the command line come on top of the others.
The places of tabs are printed one a line, and then a summary.
-/

namespace TabAudit

/-- Settings with what a command line says. -/
def Settings.extend (s : Settings) (r : CheckRequest) : Settings where
  scan :=
    { excludeGlobs := s.scan.excludeGlobs ++ r.exclude.map .ofString
      encoding := (r.encoding.map .ofString).or s.scan.encoding
      nulRunThreshold := r.nulThreshold.getD s.scan.nulRunThreshold
      bufferSize := r.bufferSize.getD s.scan.bufferSize }
  logging := { s.logging with level := if r.verbose then .str "DEBUG" else s.logging.level }

/-- The settings that a check works with. -/
def CheckRequest.settings [Runtime] (r : CheckRequest) (d : Disk) (env : Environment) :
    Except ConfigError Settings :=
  match Settings.load d .builtIn env (r.config.map Path.read) with
  | (.error e, _) => .error e
  | (.ok s, _) => .ok (s.extend r)

/-- The scanner of settings. -/
def ScanSettings.scanner [Runtime] (s : ScanSettings) : Except ScannerFault Scanner × Log :=
  Scanner.make (.list (s.excludeGlobs.map .str)) s.encoding s.nulRunThreshold s.bufferSize

/-! ## What is printed -/

/-- The place of a tab as it is written, before it is shown. -/
def locationText [Terminal] (path : String) (p : Position) : List Char :=
  Terminal.escape path.toList ++ ':' :: natDigits p.line ++ ':' :: natDigits p.column

/-- The lines about tabs as they are printed. -/
def ScanReport.locationLines [Terminal] (r : ScanReport) : List (List Char) :=
  r.filesWithTabs.flatMap fun f =>
    f.tabs.map fun p => Terminal.printed (locationText f.path p)

/-- The number of files that could not be read or decoded. -/
def ScanReport.unreadable (r : ScanReport) : Nat := r.count .undecodable + r.count .unreadable

/-- The summary of a report. -/
def ScanReport.summary (r : ScanReport) : Panel where
  title := if r.hasTabs then "Tabs Found" else "No Tabs Found"
  rows :=
    [("Files Checked:", toString r.files.length),
      ("Files Excluded:", toString r.excluded),
      ("Binary Files:", toString (r.count .binary))] ++
    (if r.unreadable = 0 then [] else [("Unreadable Files:", toString r.unreadable)]) ++
    if r.hasTabs then
      [("Files With Tabs:", toString r.filesWithTabs.length),
        ("Tabs Found:", toString r.totalTabs)]
    else []

/-- The pieces in which a report is printed. -/
def ScanReport.pieces [Terminal] (r : ScanReport) : List (List Char) :=
  r.locationLines ++ [Terminal.panel r.summary]

/-! ## The command -/

/-- Scans a tree, and prints what was found. -/
def Scanner.report [Terminal] (s : Scanner) (view : LogView) (before : Log) (d : Disk) (p : Path) :
    CommandOutcome :=
  let (result, log) := s.check d p
  match view.show? log with
  | (shown, some fault) => .early (before ++ shown) (.surprise (.format fault))
  | (shown, none) =>
    match result with
    | .error fault => .early (before ++ shown) (.surprise (.scan fault))
    | .ok report => .print (before ++ shown) report.hasTabs report.pieces

/-- Checks a tree with settings whose log is set up. -/
def ScanSettings.check [Runtime] [Terminal] (s : ScanSettings) (view : LogView) (d : Disk)
    (p : Path) : CommandOutcome :=
  match d.rootFault? p with
  | some fault => .early [] (Complaint.ending (.root (p.text '/') fault))
  | none =>
    let (made, log) := s.scanner
    match view.show? log with
    | (shown, some fault) => .early shown fault.ending
    | (shown, none) =>
      match made with
      | .error fault => .early shown fault.complaint.ending
      | .ok scanner => scanner.report view shown d p

/-- Runs the command. -/
def CheckRequest.run [Runtime] [Terminal] (r : CheckRequest) (d : Disk) (env : Environment) :
    CommandOutcome :=
  match r.settings d env with
  | .error e => .early [] e.ending
  | .ok s =>
    match LogView.make s.logging.level s.logging.format with
    | .error fault => .early [] fault.ending
    | .ok view => s.scan.check view d (Path.read r.path)

end TabAudit
