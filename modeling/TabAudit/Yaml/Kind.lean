import TabAudit.Number.Decimal
import TabAudit.Text.Basic
import TabAudit.Text.Hex
import TabAudit.Text.Pieces
import TabAudit.Yaml.Cursor
/-!
# Kinds of plain scalars

A scalar written without quotes may be more than a text: a truth value, a number, a point in time
or nothing. What it is shows in its characters alone. An end of line behind them does not count.
-/

namespace TabAudit.Yaml

/-- What a scalar is. -/
inductive Kind where
  | null
  | bool
  | int
  | float
  | timestamp
  | str
  /-- The key that merges other mappings into its own. -/
  | merge
  /-- The key of a mapping's value proper. -/
  | default
  /-- A mark that stands alone, which has no value. -/
  | mark
  deriving DecidableEq, Repr

/-- The words for truth values, in small letters. -/
def truthWords : List (List Char × Bool) :=
  [(['y', 'e', 's'], true), (['n', 'o'], false), (['t', 'r', 'u', 'e'], true),
    (['f', 'a', 'l', 's', 'e'], false), (['o', 'n'], true), (['o', 'f', 'f'], false)]

/-- A word with a capital at the front. -/
def capitalized : List Char → List Char
  | [] => []
  | c :: rest => c.toUpper :: rest

/-- The spellings of a word: small, capital at the front, and capital throughout. -/
def spellings (word : List Char) : List (List Char) :=
  [word, capitalized word, word.map Char.toUpper]

/-- Whether a text is a word in one of its spellings. -/
def spells (word s : List Char) : Bool := (spellings word).contains s

/-- Text without a sign in front. -/
def dropSign : List Char → List Char
  | '+' :: rest => rest
  | '-' :: rest => rest
  | rest => rest

/-- A digit or an underscore. -/
def isFiller (c : Char) : Bool := c.isDigit || c == '_'

/-- Whether a text is one or two digits below sixty. -/
def isSixty : List Char → Bool
  | [a] => a.isDigit
  | [a, b] => '0' ≤ a && a ≤ '5' && b.isDigit
  | _ => false

/-- The digits in base sixty behind the first colon, up to a point if there is one. -/
def sixties (s : List Char) : List (List Char) × List Char :=
  let (digits, rest) := s.span (· ≠ '.')
  (splitAtEach ':' digits, rest)

/-- Whether a text starts with a digit of its own and goes on with digits and underscores. -/
def isFilled (first : Char → Bool) : List Char → Bool
  | [] => false
  | c :: rest => first c && rest.all isFiller

def isNonzero (c : Char) : Bool := '1' ≤ c && c ≤ '9'

/-- Whether a text is a whole number. -/
def isInt (s : List Char) : Bool :=
  match dropSign s with
  | ['0'] => true
  | '0' :: 'b' :: digits => !digits.isEmpty && digits.all fun c => c == '0' || c == '1' || c == '_'
  | '0' :: 'x' :: digits => !digits.isEmpty && digits.all fun c => (hexValue? c).isSome || c == '_'
  | '0' :: digits => !digits.isEmpty && digits.all fun c => ('0' ≤ c && c ≤ '7') || c == '_'
  | body =>
    match sixties body with
    | (first :: more, []) => isFilled isNonzero first && more.all isSixty
    | _ => false

/-- Whether a text is nothing or an exponent with its sign. -/
def isExponent : List Char → Bool
  | [] => true
  | e :: sign :: digits =>
    (e == 'e' || e == 'E') && (sign == '+' || sign == '-') && !digits.isEmpty &&
      digits.all Char.isDigit
  | _ => false

/-- Whether a text is a number with a point. -/
def isFloat (s : List Char) : Bool :=
  match s, dropSign s with
  | '.' :: c :: rest, _ =>
    (c.isDigit && isExponent (rest.dropWhile isFiller)) || spells ['i', 'n', 'f'] (c :: rest) ||
      [['n', 'a', 'n'], ['N', 'a', 'N'], ['N', 'A', 'N']].contains (c :: rest)
  | _, '.' :: rest => spells ['i', 'n', 'f'] rest
  | _, body =>
    match sixties body with
    | ([whole], '.' :: places) =>
      isFilled Char.isDigit whole && isExponent (places.dropWhile isFiller)
    | (first :: more, '.' :: places) =>
      isFilled Char.isDigit first && more.all isSixty && places.all isFiller
    | _ => false

/-! ## Points in time -/

/-- The parts of a point in time as they are written. -/
structure Stamp where
  year : List Char
  month : List Char
  day : List Char
  /-- Hour, minute, second and the digits behind the second's point. -/
  clock : Option (List Char × List Char × List Char × List Char)
  /-- What is written about the clock's offset: nothing, universal time, or a sign with hours and
  minutes. -/
  zone : Option (Option (Bool × List Char × List Char))
  deriving DecidableEq, Repr

/-- So many digits at the front of a text, and what follows them. -/
def takeDigits (low high : Nat) (s : List Char) : Option (List Char × List Char) :=
  let digits := (s.take high).takeWhile Char.isDigit
  if digits.length < low then none else some (digits, s.drop digits.length)

/-- Text without a character in front that has to be there. -/
def dropChar (c : Char) : List Char → Option (List Char)
  | [] => none
  | d :: rest => if c = d then some rest else none

/-- What is written about a clock's offset, at the end of a text. -/
def readZone (s : List Char) : Option (Option (Option (Bool × List Char × List Char))) :=
  match s.dropWhile isGap with
  | [] => if s.isEmpty then some none else none
  | ['Z'] => some (some none)
  | sign :: rest =>
    if sign = '+' || sign = '-' then do
      let (hour, rest) ← takeDigits 1 2 rest
      match rest with
      | [] => some (some (some (sign = '-', hour, [])))
      | rest =>
        let (minute, rest) ← takeDigits 2 2 (← dropChar ':' rest)
        if rest.isEmpty then some (some (some (sign = '-', hour, minute))) else none
    else none

/-- What separates a day from a clock, at the front of a text. -/
def dropSeparator : List Char → Option (List Char)
  | c :: rest =>
    if c = 'T' || c = 't' then some rest
    else if isGap c then some (rest.dropWhile isGap)
    else none
  | [] => none

/-- The parts of a point in time. -/
def readStamp (s : List Char) : Option Stamp := do
  let (year, s) ← takeDigits 4 4 s
  let (month, s) ← takeDigits 1 2 (← dropChar '-' s)
  let (day, s) ← takeDigits 1 2 (← dropChar '-' s)
  match s with
  | [] => some ⟨year, month, day, none, none⟩
  | s =>
    let (hour, s) ← takeDigits 1 2 (← dropSeparator s)
    let (minute, s) ← takeDigits 2 2 (← dropChar ':' s)
    let (second, s) ← takeDigits 2 2 (← dropChar ':' s)
    let (fraction, s) :=
      match s with
      | '.' :: s => s.span Char.isDigit
      | s => ([], s)
    let zone ← readZone s
    some ⟨year, month, day, some (hour, minute, second, fraction), zone⟩

/-- A text without an end of line at its end, unless that is all of it. -/
def dropLineEnd (s : List Char) : List Char :=
  if s.getLast? = some '\n' && s ≠ ['\n'] then s.dropLast else s

/-- Whether a text is a point in time. A day alone has all its digits. -/
def isStamp (s : List Char) : Bool :=
  match readStamp s with
  | some stamp => stamp.clock.isSome || s.length = 10
  | none => false

/-- What a plain scalar of one line is. -/
def Kind.ofLine (s : List Char) : Kind :=
  if s = [] || s = ['~'] || spells ['n', 'u', 'l', 'l'] s then .null
  else if truthWords.any fun (word, _) => spells word s then .bool
  else if isFloat s then .float
  else if isInt s then .int
  else if isStamp s then .timestamp
  else if s = ['<', '<'] then .merge
  else if s = ['='] then .default
  else if s = ['!'] || s = ['&'] || s = ['*'] then .mark
  else .str

/-- What a scalar is that says nothing about itself. -/
def Kind.ofPlain (t : Text) : Kind :=
  match t.chars? with
  | some s => Kind.ofLine (dropLineEnd s)
  | none => .str

end TabAudit.Yaml
