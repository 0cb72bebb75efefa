import TabAudit.Library
import TabAudit.Number.Numeral
/-!
# Faults in JSON texts

A fault is shown with the line, the column and the number of the character where it lies.
-/

namespace TabAudit.Json

/-- What is wrong in a text. -/
inductive Reason where
  | value
  | propertyName
  | colon
  | comma
  | extra
  | unterminated
  | control
  | escape
  | unicodeEscape
  | byteOrderMark
  deriving DecidableEq, Repr

def Reason.text : Reason → String
  | value => "Expecting value"
  | propertyName => "Expecting property name enclosed in double quotes"
  | colon => "Expecting ':' delimiter"
  | comma => "Expecting ',' delimiter"
  | extra => "Extra data"
  | unterminated => "Unterminated string starting at"
  | control => "Invalid control character at"
  | escape => "Invalid \\escape"
  | unicodeEscape => "Invalid \\uXXXX escape"
  | byteOrderMark => "Unexpected UTF-8 BOM (decode using utf-8-sig)"

/-- The two kinds of collections. -/
inductive Bracket where
  | list
  | mapping
  deriving DecidableEq, Repr

/-- The name of a kind of collections in messages. -/
def Bracket.name : Bracket → String
  | list => "array"
  | mapping => "object"

/-- Why reading stops: a reason, with the number of characters from the place where it lies to the
end, a whole number that is too long, or a collection that is too deep in others. -/
inductive Stop where
  | at (reason : Reason) (remaining : Nat)
  | number (fault : NumeralFault)
  | tooDeep (bracket : Bracket)
  deriving DecidableEq, Repr

/-- Why a text is no JSON, or has no value all the same. -/
inductive Fault where
  | at (reason : Reason) (line column offset : Nat)
  | number (fault : NumeralFault)
  | tooDeep (bracket : Bracket)
  deriving DecidableEq, Repr

/-- The place of the character with so many in front of it, counted from one. -/
def place (s : List Char) (offset : Nat) : Nat × Nat :=
  let before := s.take offset
  (before.count '\n' + 1, (before.reverse.takeWhile (· ≠ '\n')).length + 1)

/-- The fault that stops the reading of a text. -/
def Stop.fault (s : List Char) : Stop → Fault
  | .at reason remaining =>
    let offset := s.length - remaining
    .at reason (place s offset).1 (place s offset).2 offset
  | .number fault => .number fault
  | .tooDeep bracket => .tooDeep bracket

def Fault.message : Fault → String
  | .at reason line column offset =>
    s!"{reason.text}: line {line} column {column} (char {offset})"
  | .number fault => fault.message
  | .tooDeep bracket =>
    s!"maximum recursion depth exceeded while decoding a JSON {bracket.name} from a unicode string"

/-- The kind of a fault. -/
def Fault.kind : Fault → FaultKind
  | .tooDeep _ => .other "RecursionError"
  | _ => .value

end TabAudit.Json
