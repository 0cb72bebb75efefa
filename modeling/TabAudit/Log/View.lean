import TabAudit.Log
import TabAudit.Log.Format
import TabAudit.Text.Case
import TabAudit.Value.Display
/-!
# The part of the log that is shown

A log is set up with a level and a format. Records below the level are not shown. If the format
turns out to be wrong, the first record that should be shown ends what was going on.
-/

namespace TabAudit

/-- How much of the log is shown, and how. -/
structure LogView where
  threshold : Nat
  format : Text
  deriving DecidableEq, Repr

/-- Why a log cannot be set up. -/
inductive LogFault where
  | levelNotText (v : Value)
  | levelUnknown (name : Text)
  | formatNotText (v : Value)
  | notAFormat (format : Text)
  deriving Repr

def LogFault.message : LogFault → String
  | .levelNotText (.bytes bs) => s!"Level not an integer or a valid string: {quotedBytes bs}"
  | .levelNotText v => s!"'{v.kindName}' object has no attribute 'upper'"
  | .levelUnknown name => s!"Unknown level: {quoted name}"
  | .formatNotText (.bytes _) => "cannot use a string pattern on a bytes-like object"
  | .formatNotText v => s!"expected string or bytes-like object, got '{v.kindName}'"
  | .notAFormat format => s!"Invalid format '{format.shown}' for '%' style"

namespace LogView

/-- The names of levels and their ranks. The level that is not set shows what matters. -/
def levels : List (String × Nat) :=
  [("CRITICAL", LogLevel.critical.rank), ("FATAL", LogLevel.critical.rank),
    ("ERROR", LogLevel.error.rank), ("WARN", LogLevel.warning.rank),
    ("WARNING", LogLevel.warning.rank), ("INFO", LogLevel.info.rank),
    ("DEBUG", LogLevel.debug.rank), ("NOTSET", LogLevel.warning.rank)]

/-- A letter between `a` and `z` as a capital. -/
def capitalByte (b : UInt8) : UInt8 := if 97 ≤ b && b ≤ 122 then b - 32 else b

/-- The rank that a level stands for, whatever the case of its letters. -/
def readLevel (v : Value) : Except LogFault Nat :=
  match v with
  | .str s =>
    let name := s.map upperCase
    match name.string?.bind fun name => levels.lookup name with
    | some rank => .ok rank
    | none => .error (.levelUnknown name)
  | .bytes bs => .error (.levelNotText (.bytes (bs.map capitalByte)))
  | v => .error (.levelNotText v)

/-- The format of a value; a value that is nothing stands for the message alone. -/
def readFormat (v : Value) : Except LogFault Text :=
  if !v.isTruthy then .ok "%(message)s"
  else
    match v with
    | .str s => if LogFormat.isFormat s.chars then .ok s else .error (.notAFormat s)
    | v => .error (.formatNotText v)

/-- Sets up a log. -/
def make (level format : Value) : Except LogFault LogView :=
  match readLevel level with
  | .error e => .error e
  | .ok threshold =>
    match readFormat format with
    | .error e => .error e
    | .ok format => .ok ⟨threshold, format⟩

/-- The records that are shown, and why the last of them was not, if so. -/
def show? (v : LogView) (log : Log) : Log × Option LogFormat.Fault :=
  let shown := log.filter fun r => v.threshold ≤ r.level.rank
  match shown, LogFormat.fault? v.format with
  | first :: _, some fault => ([first], some fault)
  | shown, _ => (shown, none)

end LogView

end TabAudit
