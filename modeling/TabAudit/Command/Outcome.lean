import TabAudit.Config.File
import TabAudit.Log.View
import TabAudit.Scan.Root
import TabAudit.Scan.Walk
import TabAudit.Terminal
/-!
# How a command ends

A command comes to its end, or complains about what it was told, or breaks off at something that it
was not prepared for. A shell sees only the number of the ending.
-/

namespace TabAudit

/-- What a command complains about. -/
inductive Complaint where
  | config (error : ConfigError)
  | log (fault : LogFault)
  | root (path : String) (fault : RootFault)
  | glob (error : GlobError)
  | scanner (fault : ScannerFault)
  | format (fault : LogFormat.Fault)
  deriving Repr

/-- The wording of a complaint. -/
def Complaint.message : Complaint → String
  | config error => s!"Failed to load configuration: {error.message}"
  | log fault => s!"Invalid logging level: {fault.message}"
  | root path fault => fault.message path
  | glob error => error.message
  | scanner fault => s!"Invalid scan configuration: {fault.message}"
  | format fault => s!"Invalid scan configuration: {fault.message}"

/-- A complaint as it is printed. -/
def Complaint.printed [Terminal] (c : Complaint) : List Char :=
  Terminal.printed ("[bold red]Error:[/bold red] ".toList ++ Terminal.escape c.message.toList)

/-- What a command is not prepared for. -/
inductive Surprise where
  | config (error : ConfigError)
  | log (fault : LogFault)
  | format (fault : LogFormat.Fault)
  | scan (fault : ScanFault)
  /-- Something cannot be printed. -/
  | print (fault : LibraryFault)
  deriving Repr

/-- The wording of a surprise. -/
def Surprise.message : Surprise → String
  | config error => error.message
  | log fault => fault.message
  | format fault => fault.message
  | scan fault => fault.message
  | print fault => fault.message

/-- How a command ends. -/
inductive Ending where
  /-- It comes to its end; a check may have found tabs. -/
  | finished (foundTabs : Bool)
  | complaint (complaint : Complaint)
  | surprise (surprise : Surprise)
  deriving Repr

/-- The number of an ending. -/
def Ending.exitCode : Ending → Nat
  | finished false => 0
  | finished true => 1
  | complaint _ => 2
  | surprise _ => 1

/-- What is left of a command: what it printed, what its log showed, and how it ended. -/
structure CommandOutcome where
  printed : List Char
  log : Log
  ending : Ending
  deriving Repr

/-- A command that ended before it could print. -/
def CommandOutcome.early (log : Log) (ending : Ending) : CommandOutcome := ⟨[], log, ending⟩

/-- A command that prints pieces and then comes to its end, unless a piece cannot be printed. -/
def CommandOutcome.print [Terminal] (log : Log) (foundTabs : Bool) (pieces : List (List Char)) :
    CommandOutcome :=
  match Terminal.write [] pieces with
  | (printed, none) => ⟨printed, log, .finished foundTabs⟩
  | (printed, some fault) => ⟨printed, log, .surprise (.print fault)⟩

/-! ## Endings -/

/-- How a command ends that complains: it says why, if that can be printed. -/
def Complaint.ending [Terminal] (c : Complaint) : Ending :=
  match Terminal.errorFault? c.printed with
  | none => .complaint c
  | some fault => .surprise (.print fault)

/-- Whether commands are prepared for settings that cannot be had because of a fault of some
kind. -/
def FaultKind.isCaught : FaultKind → Bool
  | .other _ => false
  | _ => true

/-- How a command ends that has no settings. -/
def ConfigError.ending [Terminal] (e : ConfigError) : Ending :=
  if e.kind.isCaught then Complaint.ending (.config e) else .surprise (.config e)

/-- How a command ends whose log cannot be set up. -/
def LogFault.ending [Terminal] (f : LogFault) : Ending :=
  match f with
  | .levelUnknown _ => Complaint.ending (.log f)
  | .notAFormat _ => Complaint.ending (.log f)
  | _ => .surprise (.log f)

/-- How a command ends that could not tell what is wrong with its settings. -/
def LogFormat.Fault.ending [Terminal] (f : LogFormat.Fault) : Ending :=
  if f.isOverflow then .surprise (.format f) else Complaint.ending (.format f)

/-- What a command says about settings that no scanner works with. -/
def ScannerFault.complaint : ScannerFault → Complaint
  | .globs (.malformed error) => .glob error
  | fault => .scanner fault

end TabAudit
