import TabAudit.Number.Numeral
import TabAudit.Value.Calendar
/-!
# Faults in YAML texts

Texts that are no YAML, or whose tags do not fit, are one fault. Scalars that are of a kind by
their tag or their look, but have no value of it, have faults of their own.
-/

namespace TabAudit.Yaml

/-- A span of time in days, seconds below a day, as it is shown. -/
def spanDisplay (seconds : Int) : String :=
  let days := seconds / 86400
  let rest := seconds % 86400
  let dayPart := if days = 0 then [] else [s!"days={days}"]
  let restPart := if rest = 0 then [] else [s!"seconds={rest}"]
  let parts := dayPart ++ restPart
  "datetime.timedelta(" ++ (if parts.isEmpty then "0" else ", ".intercalate parts) ++ ")"

/-- Why a text gives no value. -/
inductive Fault where
  | malformed
  /-- An escape asks for a character that does not exist. -/
  | noCharacter (code : Nat)
  | integer (fault : NumeralFault)
  | float (fault : PointFault)
  | dateTime (fault : DateTime.Fault)
  /-- A clock is a day or more ahead of universal time, or behind it. -/
  | offset (seconds : Int)
  /-- A text under the tag of truth values is none. -/
  | notTruth (text : Text)
  /-- A text under the tag of numbers has no characters. -/
  | emptyNumber
  /-- A text under the tag of points in time is none. -/
  | notStamp
  /-- A mapping stands under the tag of points in time. -/
  | stampNotText
  /-- The place of a digit is worth more than any number with a point. -/
  | placeTooLarge
  /-- Collections are too deep within each other. -/
  | tooDeep
  deriving DecidableEq, Repr

/-- The wording of a fault. Of malformed texts nothing more is said. -/
def Fault.message : Fault → String
  | .malformed => ""
  | .noCharacter code =>
    if code < Nat.pow 2 31 then "chr() arg not in range(0x110000)"
    else "Python int too large to convert to C int"
  | .integer fault => fault.message
  | .float fault => fault.message
  | .dateTime fault => fault.message
  | .offset seconds =>
    "offset must be a timedelta strictly between -timedelta(hours=24) and timedelta(hours=24), " ++
      s!"not {spanDisplay seconds}."
  | .notTruth text => quoted text
  | .emptyNumber => "string index out of range"
  | .notStamp => "'NoneType' object has no attribute 'groupdict'"
  | .stampNotText => "expected string or bytes-like object, got 'list'"
  | .placeTooLarge => "int too large to convert to float"
  | .tooDeep => "maximum recursion depth exceeded"

end TabAudit.Yaml
