import TabAudit.Command.Run
import TabAudit.Console.Terminal
import TabAudit.Yaml.Library
/-!
# The program

Takes a picture of the part of the disk that a command looks at, runs the command on it, and prints
what it leaves behind. The log goes to the error stream.
-/

namespace TabAudit.Main

/-- The YAML that the program reads and writes. -/
instance : Runtime := Yaml.runtime

/-- The console that the program prints on. -/
instance : Terminal := Console.usual

/-- The cause that stands for a failure of the system. -/
def cause (e : IO.Error) : DiskCause :=
  match e with
  | .permissionDenied .. => .denied
  | .noFileOrDirectory .. => .missing
  | _ => .inputOutput

/-- A picture of what stands at an entry of a directory. -/
partial def picture (entry : IO.FS.DirEntry) : IO Node := do
  match (← entry.path.symlinkMetadata).type with
  | .symlink => return .link (← IO.FS.realPath entry.path).toString
  | .other => return .pipe
  | .file =>
    try
      return .file (← IO.FS.readBinFile entry.path).toList .sound
    catch e => return .file [] (.closed (cause e))
  | .dir =>
    try
      let entries ← entry.path.readDir
      return .directory none (← entries.toList.mapM fun e => do return (e.fileName, ← picture e))
    catch e => return .directory (some (cause e)) []

/-- A disk with a picture of what a path leads to, if it leads anywhere. A path with links in it
becomes a link. -/
def add (d : Disk) (path : String) : IO Disk := do
  try
    let real ← IO.FS.realPath (Path.text '/' (Path.read path))
    let node ← picture ⟨real.parent.getD "/", real.fileName.getD "."⟩
    let d := { d with root := d.root.set node (Path.read real.toString).names }
    match d.locate? (Path.read path) with
    | .ok none => return (d.place (Path.read path) (.link real.toString)).toOption.getD d
    | _ => return d
  catch _ => return d

/-- The part of the disk that a command looks at. -/
def disk (c : Command) : IO Disk := do
  let here := (← IO.currentDir).toString
  let names := (Path.read here).names
  let d : Disk := ⟨Node.empty.set .empty names, names, here⟩
  match c with
  | .check request => request.config.toList.foldlM add (← add d request.path)
  | _ => return d

/-- The variables of the environment that settings are given in. -/
def environment : IO Environment :=
  Variable.all.filterMapM fun v => do return (← IO.getEnv v.name).map (v.name, ·)

/-- How the program is used. -/
def usage : String :=
  "Usage:\n" ++
  "  check [OPTIONS] PATH    fail if a file below PATH holds a tab\n" ++
  "  glob GLOB [PATH]...     show the pattern of a glob, and which paths it accepts\n" ++
  "Options of check:\n" ++
  "  -x, --exclude GLOB      leave out what the glob matches; may be repeated\n" ++
  "  -e, --encoding NAME     the encoding of the files\n" ++
  "      --nul-threshold N   the number of zero bytes in a row that make a file binary\n" ++
  "      --buffer-size N     the number of bytes that are read at a time\n" ++
  "  -c, --config FILE       a YAML or JSON file with settings\n" ++
  "  -v, --verbose           show what the check does\n"

/-- What goes to the error stream at the end of a command. -/
def errorText (e : Ending) : String :=
  match e with
  | .finished _ => ""
  | .complaint c => String.ofList c.printed
  | .surprise s => s.message ++ "\n"

/-- Runs a command and prints what it leaves behind. -/
def run (c : Command) : IO UInt32 := do
  let outcome := c.run (← disk c) (← environment)
  let errors ← IO.getStderr
  for record in outcome.log do
    errors.putStrLn (record.level.name ++ " " ++ record.message)
  (← IO.getStdout).putStr (String.ofList outcome.printed)
  errors.putStr (errorText outcome.ending)
  return outcome.ending.exitCode.toUInt32

end TabAudit.Main

/-- Reads the command line and runs the command. -/
def main (args : List String) : IO UInt32 := do
  match TabAudit.Command.read args with
  | .error e =>
    let shown := if e.showsUsage then TabAudit.Main.usage else ""
    (← IO.getStderr).putStr (shown ++ "Error: " ++ e.message ++ "\n")
    return 2
  | .ok .help =>
    (← IO.getStdout).putStr TabAudit.Main.usage
    return 0
  | .ok c => TabAudit.Main.run c
