import TabAudit.Value.Slots
/-!
# Settings

What a check is told about the tree it scans and about its own log. The scan settings are typed;
those of the log are kept as they are given, and looked at when the log is set up.
-/

namespace TabAudit

/-- How a tree is scanned. No encoding stands for the one of the platform. -/
structure ScanSettings where
  excludeGlobs : List Text
  encoding : Option Text
  nulRunThreshold : Int
  bufferSize : Int
  deriving DecidableEq, Repr

/-- How the log is written. -/
structure LogSettings where
  level : Value
  format : Value
  deriving Repr

/-- All settings. -/
structure Settings where
  scan : ScanSettings
  logging : LogSettings
  deriving Repr

/-- Whether both sizes can be used. -/
def ScanSettings.Valid (s : ScanSettings) : Prop :=
  1 ≤ s.nulRunThreshold ∧ 1 ≤ s.bufferSize

instance (s : ScanSettings) : Decidable s.Valid :=
  inferInstanceAs (Decidable (_ ∧ _))

/-! ## Settings as values -/

/-- The pairs of a mapping with the scan settings. -/
def ScanSettings.toPairs (s : ScanSettings) : List (Value × Value) :=
  [(.str "exclude_globs", .list (s.excludeGlobs.map .str)),
    (.str "encoding", (s.encoding.map .str).getD .null),
    (.str "nul_run_threshold", .int s.nulRunThreshold),
    (.str "buffer_size", .int s.bufferSize)]

/-- The pairs of a mapping with the settings of the log. -/
def LogSettings.toPairs (s : LogSettings) : List (Value × Value) :=
  [(.str "level", s.level), (.str "format", s.format)]

/-- The pairs of a mapping with all settings. -/
def Settings.toPairs (s : Settings) : List (Value × Value) :=
  [(.str "scan", .dict s.scan.toPairs), (.str "logging", .dict s.logging.toPairs)]

/-- The mapping with all settings. -/
def Settings.toValue (s : Settings) : Value := .dict s.toPairs

/-- The number of collections within each other that settings are taken apart for. -/
def depthLimit : Nat := 489

/-- Whether a value can be taken apart: it has an end, and is not too deep. -/
def Value.isShallow (v : Value) : Bool := v.depth?.any (· ≤ depthLimit)

/-- Settings with copies of those of the log. -/
def Settings.copied (s : Settings) : Settings :=
  { s with logging := ⟨s.logging.level.copied, s.logging.format.copied⟩ }

/-- The mapping with copies of all settings, unless those of the log are endless or too deep. -/
def Settings.value? (s : Settings) : Option Value :=
  if s.logging.level.isShallow && s.logging.format.isShallow then some s.copied.toValue else none

/-! ## The settings of a program that was told nothing -/

/-- The settings that hold where nothing else is said. -/
def Settings.builtIn : Settings where
  scan :=
    { excludeGlobs := [".git/**", "target/**"]
      encoding := none
      nulRunThreshold := 1
      bufferSize := 8192 }
  logging := { level := .str "INFO", format := .str "%(message)s" }

theorem Settings.builtIn_valid : Settings.builtIn.scan.Valid := by decide

end TabAudit
