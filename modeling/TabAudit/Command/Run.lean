import TabAudit.Command.Check
import TabAudit.Command.Glob
/-!
# Running a command
-/

namespace TabAudit

/-- Runs a command on a disk, with the variables of an environment. Help asks for nothing. -/
def Command.run [Runtime] [Terminal] (c : Command) (d : Disk) (env : Environment) :
    CommandOutcome :=
  match c with
  | .help => .early [] (.finished false)
  | .check request => request.run d env
  | .glob text paths => runGlob text paths

end TabAudit
