import TabAudit.Config.CommaList
import TabAudit.Config.Settings
import TabAudit.Number.Numeral
/-!
# Settings from the environment

Five settings can be given in variables of the environment. A variable that is set counts, even
with an empty text. A size has to be a numeral, but whether it can be used is not asked here.
-/

namespace TabAudit

/-- The variables of an environment and their texts. -/
abbrev Environment := List (String × String)

/-- The variables that settings are given in. -/
inductive Variable where
  | excludeGlobs
  | encoding
  | nulRunThreshold
  | bufferSize
  | level
  deriving DecidableEq, Repr

namespace Variable

/-- The variables in the order in which they are looked at. -/
def all : List Variable := [excludeGlobs, encoding, nulRunThreshold, bufferSize, level]

/-- The name of a variable. -/
def name : Variable → String
  | excludeGlobs => "NOTABS_SCAN_EXCLUDE_GLOBS"
  | encoding => "NOTABS_SCAN_ENCODING"
  | nulRunThreshold => "NOTABS_SCAN_NUL_RUN_THRESHOLD"
  | bufferSize => "NOTABS_SCAN_BUFFER_SIZE"
  | level => "NOTABS_LOGGING_LEVEL"

/-- Settings with what the text of a variable says. -/
def set (s : Settings) (text : String) : Variable → Except NumeralFault Settings
  | excludeGlobs =>
    .ok { s with scan := { s.scan with excludeGlobs := (commaItems text).map .ofString } }
  | encoding => .ok { s with scan := { s.scan with encoding := some (.ofString text) } }
  | nulRunThreshold =>
    match Numeral.read text with
    | .error e => .error e
    | .ok n => .ok { s with scan := { s.scan with nulRunThreshold := n } }
  | bufferSize =>
    match Numeral.read text with
    | .error e => .error e
    | .ok n => .ok { s with scan := { s.scan with bufferSize := n } }
  | level => .ok { s with logging := { s.logging with level := .str text } }

/-- Settings with what variables say, up to the first whose text is no numeral where it should
be. -/
def setAll (env : Environment) (s : Settings) : List Variable → Settings × Option NumeralFault
  | [] => (s, none)
  | v :: rest =>
    match env.lookup v.name with
    | none => setAll env s rest
    | some text =>
      match v.set s text with
      | .error e => (s, some e)
      | .ok s => setAll env s rest

end Variable

/-- Settings with what an environment says, and why it was left half way. -/
def Settings.override (s : Settings) (env : Environment) : Settings × Option NumeralFault :=
  Variable.setAll env s Variable.all

end TabAudit
