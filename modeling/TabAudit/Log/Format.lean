import TabAudit.Memory
import TabAudit.Number.Decimal
import TabAudit.Text.Digit
import TabAudit.Text.Pieces
import TabAudit.Text.Quoted
import TabAudit.Text.Word
/-!
# The format of log lines

A format is a text with conversions in it. A conversion starts with a percent sign and may name
the field of a record that it shows, in parentheses. A text without any conversion of a named
field is no format. What else is wrong with one comes out when the first record is shown. Two
percent signs side by side stand for one of them.
-/

namespace TabAudit.LogFormat

/-- The characters that change how a conversion fills its width. -/
def isFlag (c : Char) : Bool := "#0+ -".contains c

/-- The letters that end a conversion, and the percent sign. Letters that differ from one of them in
case only count too. -/
def isConversion (c : Char) : Bool :=
  "diouxefgcrsa%".contains c.toLower || ['İ', 'ı', 'ſ'].contains c

/-! ## What counts as a format -/

/-- What follows a width or a precision, if one is there: a star or digits. -/
def afterNumber? : List Char → Option (List Char)
  | '*' :: rest => some rest
  | c :: rest =>
    if (digitValue? c).isSome then some (rest.dropWhile fun c => (digitValue? c).isSome) else none
  | [] => none

/-- Whether a conversion stands behind a percent sign in front of a text. -/
def startsConversion : List Char → Bool
  | '(' :: s =>
    let (name, rest) := s.span isWordChar
    match rest with
    | ')' :: rest =>
      let rest := rest.dropWhile isFlag
      let rest := (afterNumber? rest).getD rest
      let rest := match rest with
        | '.' :: more => (afterNumber? more).getD rest
        | _ => rest
      !name.isEmpty && rest.head?.any isConversion
    | _ => false
  | _ => false

/-- Whether a text shows some named field. -/
def isFormat : List Char → Bool
  | [] => false
  | c :: rest => (c == '%' && startsConversion rest) || isFormat rest

/-! ## Fields of a record -/

/-- What a field of a record holds. -/
inductive FieldKind where
  | text
  | whole
  /-- A whole number beyond the code of any character and beyond any precision. -/
  | large
  | real
  | nothing
  | row
  /-- Not a field, but the whole record. -/
  | record
  deriving DecidableEq, Repr

/-- The name of a kind in messages. -/
def FieldKind.shown : FieldKind → String
  | text => "str"
  | whole => "int"
  | large => "int"
  | real => "float"
  | nothing => "NoneType"
  | row => "tuple"
  | record => "dict"

/-- Whether a field holds a whole number. -/
def FieldKind.isWhole (k : FieldKind) : Bool := k = .whole || k = .large

/-- The fields that a record has, whatever its format. -/
def fields : List (String × FieldKind) :=
  [("name", .text), ("msg", .text), ("args", .row), ("levelname", .text), ("levelno", .whole),
    ("pathname", .text), ("filename", .text), ("module", .text), ("exc_info", .nothing),
    ("exc_text", .nothing), ("stack_info", .nothing), ("lineno", .whole), ("funcName", .text),
    ("created", .real), ("msecs", .real), ("relativeCreated", .real), ("thread", .large),
    ("threadName", .text), ("processName", .text), ("process", .whole), ("message", .text)]

/-- The field that a record has if its format shows it by name. -/
def timeField : String := "asctime"

/-- Whether a format shows the time of a record by name. -/
def showsTime : List Char → Bool
  | [] => false
  | c :: rest => ("%(" ++ timeField ++ ")").toList.isPrefixOf (c :: rest) || showsTime rest

/-- Why a record cannot be shown. -/
inductive Fault where
  | unknownField (name : Text)
  | openName
  | incomplete
  | unsupported (p : CodePoint) (index : Nat)
  | tooFewValues
  | widthTooBig
  | precisionTooBig
  /-- The precision is too big for a whole number. -/
  | precisionTooLarge
  | starNotWhole
  | starTooLarge
  | notReal (conversion : Char) (kind : FieldKind)
  | notWhole (conversion : Char) (kind : FieldKind)
  | notFloat (kind : FieldKind)
  | notCharacter
  | noCharacter
  deriving DecidableEq, Repr

def Fault.message : Fault → String
  | .unknownField name => s!"Formatting field not found in record: {quoted name}"
  | .openName => "incomplete format key"
  | .incomplete => "incomplete format"
  | .unsupported p index =>
    let shown := if 31 ≤ p.code && p.code ≤ 126 then p.toChar else '?'
    let code := String.ofList (Nat.toDigits 16 p.code)
    s!"unsupported format character '{shown}' (0x{code}) at index {index}"
  | .tooFewValues => "not enough arguments for format string"
  | .widthTooBig => "width too big"
  | .precisionTooBig => "precision too big"
  | .precisionTooLarge => "precision too large"
  | .starNotWhole => "* wants int"
  | .starTooLarge => "Python int too large to convert to C int"
  | .notReal conversion kind =>
    s!"%{conversion} format: a real number is required, not {kind.shown}"
  | .notWhole conversion kind =>
    s!"%{conversion} format: an integer is required, not {kind.shown}"
  | .notFloat kind => s!"must be real number, not {kind.shown}"
  | .notCharacter => "%c requires int or char"
  | .noCharacter => "%c arg not in range(0x110000)"

/-- Whether a fault is that a number is out of bounds, and not that a format is wrong. -/
def Fault.isOverflow (f : Fault) : Bool :=
  f = .starTooLarge || f = .noCharacter || f = .precisionTooLarge

/-! ## Showing a record -/

/-- A code point is a character. -/
def isChar (c : Char) (p : CodePoint) : Bool := p = .char c

/-- A code point is one of some characters. -/
def isOneOf (s : String) (p : CodePoint) : Bool := p.char?.any fun c => s.contains c

/-- How a conversion fills its place. -/
structure Measure where
  width : Nat
  precision : Nat
  deriving DecidableEq, Repr

/-- The precision from which on no whole number is written. -/
def wholePrecisionLimit : Nat := Nat.pow 2 31 - 3

/-- What is wrong with a value of a kind behind a conversion at an index. -/
def convert? (conversion : CodePoint) (index precision : Nat) (kind : FieldKind) : Option Fault :=
  let whole := if wholePrecisionLimit ≤ precision then some Fault.precisionTooLarge else none
  let c := conversion.toChar
  if isOneOf "sra" conversion then none
  else if isOneOf "diu" conversion then
    if kind.isWhole || kind = .real then whole else some (.notReal c kind)
  else if isOneOf "oxX" conversion then
    if kind.isWhole then whole else some (.notWhole c kind)
  else if isOneOf "eEfFgG" conversion then
    if kind.isWhole || kind = .real then none else some (.notFloat kind)
  else if isChar 'c' conversion then
    match kind with
    | .whole => none
    | .large => some .noCharacter
    | _ => some .notCharacter
  else some (.unsupported conversion index)

/-- The name between parentheses and what follows it. Parentheses inside count. -/
def readName (depth : Nat) : List CodePoint → Option (List CodePoint × List CodePoint)
  | [] => none
  | .char ')' :: rest =>
    match depth with
    | 0 => some ([], rest)
    | depth + 1 => (readName depth rest).map fun (name, rest) => (.char ')' :: name, rest)
  | .char '(' :: rest =>
    (readName (depth + 1) rest).map fun (name, rest) => (.char '(' :: name, rest)
  | p :: rest => (readName depth rest).map fun (name, rest) => (p :: name, rest)

/-- The value that comes next, which is there only once. -/
abbrev NextValue := Option FieldKind

/-- What may stand for a width, or for a precision. -/
structure NumberRule where
  /-- The greatest number that digits may stand for. -/
  limit : Nat
  /-- What is wrong with a greater one. -/
  beyond : Fault
  /-- Whether a star may take a large number. -/
  takesLarge : Bool

/-- Widths may be as great as the size of a text. -/
def NumberRule.width : NumberRule := ⟨sizeLimit - 1, .widthTooBig, true⟩

/-- Precisions fit into 31 bits. -/
def NumberRule.precision : NumberRule := ⟨Nat.pow 2 31 - 1, .precisionTooBig, false⟩

/-- Whether a code point is a digit. -/
def isDigit (p : CodePoint) : Bool := p.char?.any Char.isDigit

/-- A width or a precision, the next value behind it, and what follows. A star takes a whole number
from the values; as none is left then, it does not matter which. -/
def takeNumber (rule : NumberRule) (next : NextValue) :
    List CodePoint → Except Fault (Nat × NextValue × List CodePoint)
  | .char '*' :: rest =>
    match next with
    | none => .error .tooFewValues
    | some .whole => .ok (0, none, rest)
    | some .large => if rule.takesLarge then .ok (0, none, rest) else .error .starTooLarge
    | some _ => .error .starNotWhole
  | s =>
    let n := ofDecimalDigits ((s.takeWhile isDigit).map CodePoint.toChar)
    if rule.limit < n then .error rule.beyond else .ok (n, next, s.dropWhile isDigit)

/-- Text without the letter for the size of a value, which says nothing. -/
def dropSize : List CodePoint → List CodePoint
  | p :: rest => if isOneOf "hlL" p then rest else p :: rest
  | [] => []

/-- The width and the precision of a conversion, which is looked at without its percent sign and its
name, the next value behind them, and what follows. -/
def takeMeasure (next : NextValue) (s : List CodePoint) :
    Except Fault (Measure × NextValue × List CodePoint) :=
  match takeNumber .width next (s.dropWhile (isOneOf "#0+ -")) with
  | .error e => .error e
  | .ok (width, next, rest) =>
    let precision := match rest with
      | .char '.' :: more => takeNumber .precision next more
      | rest => .ok (0, next, rest)
    match precision with
    | .error e => .error e
    | .ok (precision, next, rest) => .ok (⟨width, precision⟩, next, rest)

/-- The value that is left behind a conversion, and what follows. `size` is the length of the whole
format. -/
def afterConversion (size : Nat) (next : NextValue) (s : List CodePoint) :
    Except Fault (NextValue × List CodePoint) :=
  match takeMeasure next s with
  | .error e => .error e
  | .ok (measure, next, rest) =>
    match dropSize rest, next with
    | [], _ => .error .incomplete
    | _ :: _, none => .error .tooFewValues
    | p :: rest, some kind =>
      match convert? p (size - rest.length - 1) measure.precision kind with
      | some fault => .error fault
      | none => .ok (none, rest)

/-- Looks for what is wrong with a format. The fuel is the length of what is left. -/
def faultFrom (known : List (String × FieldKind)) (size : Nat) (next : NextValue) :
    Nat → List CodePoint → Option Fault
  | 0, _ => none
  | _, [] => none
  | fuel + 1, .char '%' :: .char '%' :: rest => faultFrom known size next fuel rest
  | fuel + 1, .char '%' :: rest =>
    let named : Except Fault (NextValue × List CodePoint) :=
      match rest with
      | .char '(' :: inner =>
        match readName 0 inner with
        | none => .error .openName
        | some (name, rest) =>
          match (Text.mk name).string?.bind fun name => known.lookup name with
          | none => .error (.unknownField ⟨name⟩)
          | some kind => .ok (some kind, rest)
      | rest => .ok (next, rest)
    match named with
    | .error e => some e
    | .ok (next, rest) =>
      match afterConversion size next rest with
      | .error e => some e
      | .ok (next, rest) => faultFrom known size next fuel rest
  | fuel + 1, _ :: rest => faultFrom known size next fuel rest

/-- Why no record can be shown in a format, if so. -/
def fault? (format : Text) : Option Fault :=
  let known := if showsTime format.chars then (timeField, .text) :: fields else fields
  let size := format.points.length
  faultFrom known size (some .record) size format.points

end TabAudit.LogFormat
