import TabAudit.Disk.Resolve
/-!
# Where a scan may start

A scan starts at a directory. Anything else is told apart by why it will not do.
-/

namespace TabAudit

/-- Why a scan cannot start at a path. -/
inductive RootFault where
  | missing
  | notADirectory
  | refused (error : DiskError)
  deriving DecidableEq, Repr

/-- The wording of a fault, for a path as the user knows it. -/
def RootFault.message (path : String) : RootFault → String
  | .missing => s!"Path '{path}' does not exist"
  | .notADirectory => s!"Path '{path}' is not a directory"
  | .refused error => s!"Invalid path '{path}': {error.message}"

/-- Why a scan cannot start at a path, if so. -/
def Disk.rootFault? (d : Disk) (p : Path) : Option RootFault :=
  match d.locate? p with
  | .error e => some (.refused e)
  | .ok none => some .missing
  | .ok (some found) => if found.node.isDirectory then none else some .notADirectory

end TabAudit
