import TabAudit.Checker
import TabAudit.Disk.Lookup
import TabAudit.Scan.Report
/-!
# Checking a file of a disk

The check of a file may end without an answer, because the file is binary, does not decode, or
cannot be read; each is a status of its own. Other ends are not expected and stop the scan.
-/

namespace TabAudit

/-- Why a file of a disk has no positions of tabs. -/
inductive FileFault where
  | disk (error : DiskError)
  | check (fault : CheckFault)
  deriving DecidableEq, Repr

def FileFault.message : FileFault → String
  | .disk error => error.message
  | .check fault => fault.message

/-- Checks what stands at a path that is shown as given. -/
def Checker.checkNode (c : Checker) (shown : String) (node : Node) :
    Except FileFault (List Position) × Log :=
  let outcome (source : Source) :=
    match c.check source with
    | (.error e, log) => (.error (.check e), log)
    | (.ok [], log) => (.ok [], log)
    | (.ok tabs, log) =>
      (.ok tabs, log ++ [Log.debug s!"Found {tabs.length} tab(s) in {shown}"])
  match node with
  | .file _ (.closed cause) => (.error (.disk (.refused cause shown)), [])
  | .file content access => outcome (Node.source content access)
  | .directory .. => (.error (.disk (.refused .isDirectory shown)), [])
  | .link _ => (.error (.disk (.refused .missing shown)), [])
  | .pipe => outcome []
  | .unasked cause => (.error (.disk (.refused cause shown)), [])

/-- Checks what a path leads to. -/
def Checker.checkPath (c : Checker) (d : Disk) (p : Path) :
    Except FileFault (List Position) × Log :=
  match d.findNames p.names with
  | .error e => (.error (.disk e), [])
  | .ok found => c.checkNode (d.display p.names) found.node

/-- How a fault that a scan expects ends the check of a file: the status, and what the log says. -/
def FileFault.settled? (encoding shown path : String) (f : FileFault) :
    Option (FileStatus × LogRecord) :=
  let denied :=
    some (.unreadable, Log.warning s!"Permission denied reading file: {shown} - {f.message}")
  let unreadable := some (.unreadable, Log.warning s!"Error reading file: {shown} - {f.message}")
  match f with
  | .check (.reading (.nulRun _)) =>
    some (.binary, Log.debug s!"Skipping binary file {path}: {f.message}")
  | .check (.decoding fault) =>
    match fault.kind with
    | .undecodable =>
      some (.undecodable,
        Log.warning s!"Failed to decode file as {encoding}: {shown} - {f.message}")
    | .denied => denied
    | .system => unreadable
    | _ => none
  | .disk (.refused .denied _) => denied
  | .disk (.refused ..) => unreadable
  | .check (.reading (.source _)) => unreadable
  | _ => none

/-- Checks a file for a scan. -/
def Checker.checkFile (c : Checker) (shown path : String) (node : Node) :
    Except FileFault CheckedFile × Log :=
  let start := Log.debug s!"Checking {path} for tabs"
  match c.checkNode shown node with
  | (.ok tabs, log) =>
    (.ok ⟨path, if tabs.isEmpty then .clean else .tabsFound, tabs⟩, start :: log)
  | (.error fault, log) =>
    match fault.settled? c.encodingName shown path with
    | some (status, record) => (.ok ⟨path, status, []⟩, start :: log ++ [record])
    | none => (.error fault, start :: log)

end TabAudit
