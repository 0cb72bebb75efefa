import TabAudit.Number.Binary64
import TabAudit.Number.Decimal
import TabAudit.Text.Blank
import TabAudit.Text.Digit
import TabAudit.Text.Hex
import TabAudit.Text.Quoted
/-!
# Numerals

A numeral is a whole number as people type it: blanks around it, a sign, digits of any script, and
single underscores between digits. One of more than 4300 digits is refused for its size.
-/

namespace TabAudit

/-- Why a text is no whole number. -/
inductive NumeralFault where
  | malformed (base : Nat) (text : Text)
  | tooLong (digits : Nat)
  deriving DecidableEq, Repr

/-- The number of digits that a numeral may have, unless its base is a power of two. -/
def numeralLimit : Nat := 4300

/-- The wording of a fault. A long text is cut. -/
def NumeralFault.message : NumeralFault → String
  | .malformed base text =>
    s!"invalid literal for int() with base {base}: " ++
      String.ofList ((quoted text).toList.take 200)
  | .tooLong digits =>
    s!"Exceeds the limit ({numeralLimit} digits) for integer string conversion: " ++
      s!"value has {digits} digits; use sys.set_int_max_str_digits() to increase the limit"

namespace Numeral

/-- A character in the form that numerals are read in. -/
def plain (c : Char) : Char :=
  if c.toNat < 128 then c
  else if isBlank c then ' '
  else match digitValue? c with
    | some d => decimalDigit d
    | none => '?'

/-- The blanks that may stand around a numeral. -/
def isSpace (c : Char) : Bool := c == ' ' || (9 ≤ c.toNat && c.toNat ≤ 13)

/-- A sign and what follows it. -/
def readSign : List Char → Bool × List Char
  | '+' :: rest => (false, rest)
  | '-' :: rest => (true, rest)
  | rest => (false, rest)

/-- Text without the mark of its base. An underscore may follow the mark. -/
def dropMark (base : Nat) (s : List Char) : List Char :=
  match s with
  | '0' :: mark :: rest =>
    if (base = 2 && mark.toLower = 'b') || (base = 8 && mark.toLower = 'o') ||
        (base = 16 && mark.toLower = 'x') then
      match rest with
      | '_' :: rest => rest
      | rest => rest
    else s
  | s => s

/-- Whether every underscore stands between two digits. `afterDigit` tells what stands before. -/
def underscoresFit (afterDigit : Bool) : List Char → Bool
  | [] => afterDigit
  | '_' :: rest => afterDigit && underscoresFit false rest
  | _ :: rest => underscoresFit true rest

/-- The value of a digit below a base. -/
def digitIn? (base : Nat) (c : Char) : Option Nat :=
  (hexValue? c).filter (· < base)

/-- The number that a numeral in a base of at most sixteen stands for. -/
def readIn (base : Nat) (text : Text) : Except NumeralFault Int :=
  let (negative, s) := readSign ((text.chars.map plain).dropWhile isSpace)
  let (run, rest) := (dropMark base s).span fun c => (digitIn? base c).isSome || c == '_'
  let digits := run.filterMap (digitIn? base)
  if !underscoresFit false run then .error (.malformed base text)
  else if base = 10 && numeralLimit < digits.length then .error (.tooLong digits.length)
  else if rest.any (!isSpace ·) then .error (.malformed base text)
  else
    let n : Int := ofDigits base digits
    .ok (if negative then -n else n)

/-- The number that a numeral in base ten stands for. -/
def read (text : Text) : Except NumeralFault Int := readIn 10 text

end Numeral

/-! ## Numbers with a point -/

/-- A text that is no number with a point. -/
structure PointFault where
  text : Text
  deriving DecidableEq, Repr

def PointFault.message (f : PointFault) : String :=
  s!"could not convert string to float: {quoted f.text}"

namespace Numeral

/-- The power of ten that a text without blanks ends in, if that is all there is. -/
def readPower? : List Char → Option Int
  | [] => some 0
  | e :: rest =>
    let (negative, digits) := readSign rest
    if e.toLower = 'e' && !digits.isEmpty && digits.all Char.isDigit then
      some (if negative then -(ofDecimalDigits digits : Int) else ofDecimalDigits digits)
    else none

/-- The number with a point that a text without blanks and underscores stands for. -/
def readPoint? (s : List Char) : Option Binary64 :=
  let (negative, body) := readSign s
  let word := body.map Char.toLower
  if word = ['i', 'n', 'f'] || word = ['i', 'n', 'f', 'i', 'n', 'i', 't', 'y'] then
    some (.infinity negative)
  else if word = ['n', 'a', 'n'] then some .notANumber
  else
    let (whole, rest) := body.span Char.isDigit
    let (places, rest) :=
      match rest with
      | '.' :: rest => rest.span Char.isDigit
      | rest => ([], rest)
    if whole.isEmpty && places.isEmpty then none
    else (readPower? rest).map fun power =>
      .ofDecimal negative (ofDecimalDigits (whole ++ places)) (power - places.length)

/-- The number with a point that a text without underscores stands for. -/
def readPoint (text : Text) : Except PointFault Binary64 :=
  match readPoint? (dropWhileEnd isSpace ((text.chars.map plain).dropWhile isSpace)) with
  | some x => .ok x
  | none => .error ⟨text⟩

end Numeral

end TabAudit
