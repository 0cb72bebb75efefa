/-!
# The tokens of a glob

A glob is read left to right: a backslash with the character it protects, `**`, `*`, `?`, a run
of separators, or any other character. `**` must touch a separator or an end of the glob on both
sides, and a backslash must have a character behind it; `Glob.firstFault` finds the first breach.
-/

namespace TabAudit.Glob

/-- One step of a glob. -/
inductive Token where
  /-- A character that stands for itself. -/
  | ordinary (c : Char)
  /-- A backslash and the character it protects. -/
  | escaped (c : Char)
  /-- `?`: one character within a component. -/
  | anyChar
  /-- `*`: a run of characters within a component. -/
  | anyRun
  /-- `**`: a run of characters across components. -/
  | anyPath
  /-- A run of unescaped `/`. -/
  | separator
  /-- A backslash at the end of the glob. -/
  | loneEscape
  deriving DecidableEq, Repr

/-- The tokens of a glob, left to right. -/
def tokens : List Char → List Token
  | [] => []
  | ['\\'] => [.loneEscape]
  | '\\' :: c :: rest => .escaped c :: tokens rest
  | '*' :: '*' :: rest => .anyPath :: tokens rest
  | '*' :: rest => .anyRun :: tokens rest
  | '?' :: rest => .anyChar :: tokens rest
  | '/' :: '/' :: rest => tokens ('/' :: rest)
  | '/' :: rest => .separator :: tokens rest
  | c :: rest => .ordinary c :: tokens rest

/-- What makes a glob unusable. -/
inductive Fault where
  /-- A `**` that does not touch a separator or an end of the glob on each side. -/
  | strayAnyPath
  /-- A backslash with nothing behind it. -/
  | trailingEscape
  /-- A translation that is no pattern. -/
  | unreadable
  deriving DecidableEq, Repr

def Fault.reason : Fault → String
  | .strayAnyPath => "'**' must be adjacent to '/' or the start or end of the glob"
  | .trailingEscape => "trailing escape character"
  | .unreadable => "the translated pattern cannot be read"

/-- The first fault of a glob. `clear` tells whether a `**` may stand here: at the start, or
directly behind a separator. -/
def firstFault (clear : Bool) : List Token → Option Fault
  | [] => none
  | .anyPath :: rest =>
    if clear then
      match rest with
      | [] => none
      | .separator :: rest => firstFault true rest
      | _ => some .strayAnyPath
    else some .strayAnyPath
  | .separator :: rest => firstFault true rest
  | .loneEscape :: _ => some .trailingEscape
  | _ :: rest => firstFault false rest

end TabAudit.Glob
