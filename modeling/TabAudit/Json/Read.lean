import TabAudit.Json.Fault
import TabAudit.Text.Hex
import TabAudit.Value.Basic
/-!
# Reading JSON

A text holds one value. Besides what JSON allows, not-a-number and the infinities have names, and
of two pairs with one key the later counts. Two escapes of halves of a surrogate pair that stand
side by side are one character.
-/

namespace TabAudit.Json

/-- Text without the blanks in front. -/
def skipBlanks (s : List Char) : List Char :=
  s.dropWhile fun c => c == ' ' || c == '\t' || c == '\n' || c == '\r'

/-! ## Texts -/

/-- The character behind a backslash that stands for another. -/
def escaped? : Char → Option Char
  | '"' => some '"'
  | '\\' => some '\\'
  | '/' => some '/'
  | 'b' => some '\x08'
  | 'f' => some '\x0c'
  | 'n' => some '\n'
  | 'r' => some '\r'
  | 't' => some '\t'
  | _ => none

/-- The number that four digits in base sixteen stand for. -/
def fourHex? (a b c d : Char) : Option Nat :=
  match hexValue? a, hexValue? b, hexValue? c, hexValue? d with
  | some a, some b, some c, some d => some (((a * 16 + b) * 16 + c) * 16 + d)
  | _, _, _, _ => none

def isHighSurrogate (n : Nat) : Bool := 0xD800 ≤ n && n < 0xDC00

def isLowSurrogate (n : Nat) : Bool := 0xDC00 ≤ n && n < 0xE000

/-- The code point of a code unit of its own. -/
def unitPoint (n : Nat) : CodePoint := (CodePoint.ofCode? n).getD (.char '\uFFFD')

/-- The character of two surrogates. -/
def pairChar (high low : Nat) : Char :=
  Char.ofNat (0x10000 + (high - 0xD800) * 1024 + (low - 0xDC00))

/-- A code point in front of a text that was read. -/
def consText (p : CodePoint) :
    Except Stop (List CodePoint × List Char) → Except Stop (List CodePoint × List Char)
  | .ok (text, rest) => .ok (p :: text, rest)
  | .error e => .error e

/-- The code points up to the closing quote, and what follows it. `opening` is the number of
characters from the opening quote to the end. An escape of four digits must not end the text. -/
def readText (opening : Nat) : List Char → Except Stop (List CodePoint × List Char)
  | [] => .error (.at .unterminated opening)
  | '"' :: rest => .ok ([], rest)
  | ['\\'] => .error (.at .unterminated opening)
  | '\\' :: 'u' :: a :: b :: c :: d :: '\\' :: 'u' :: e :: f :: g :: h :: rest =>
    match fourHex? a b c d with
    | none => .error (.at .unicodeEscape (rest.length + 11))
    | some n =>
      if isHighSurrogate n && !rest.isEmpty then
        match fourHex? e f g h with
        | none => .error (.at .unicodeEscape (rest.length + 5))
        | some m =>
          if isLowSurrogate m then consText (.char (pairChar n m)) (readText opening rest)
          else consText (unitPoint n) (readText opening ('\\' :: 'u' :: e :: f :: g :: h :: rest))
      else consText (unitPoint n) (readText opening ('\\' :: 'u' :: e :: f :: g :: h :: rest))
  | '\\' :: 'u' :: a :: b :: c :: d :: x :: rest =>
    match fourHex? a b c d with
    | none => .error (.at .unicodeEscape (rest.length + 6))
    | some n => consText (unitPoint n) (readText opening (x :: rest))
  | '\\' :: 'u' :: rest => .error (.at .unicodeEscape (rest.length + 1))
  | '\\' :: c :: rest =>
    match escaped? c with
    | none => .error (.at .escape (rest.length + 2))
    | some x => consText (.char x) (readText opening rest)
  | c :: rest =>
    if c.toNat < 32 then .error (.at .control (rest.length + 1))
    else consText (.char c) (readText opening rest)

/-! ## Numbers -/

/-- The digits behind a point, if any stand there. -/
def readPlaces : List Char → Option (List Char) × List Char
  | '.' :: rest =>
    match rest.span Char.isDigit with
    | ([], _) => (none, '.' :: rest)
    | (digits, rest) => (some digits, rest)
  | rest => (none, rest)

/-- The digits of an exponent behind its letter and sign. -/
def readPower (s : List Char) : Option Int × List Char :=
  match s with
  | e :: rest =>
    if e = 'e' || e = 'E' then
      let (negative, rest) :=
        match rest with
        | '+' :: rest => (false, rest)
        | '-' :: rest => (true, rest)
        | rest => (false, rest)
      match rest.span Char.isDigit with
      | ([], _) => (none, s)
      | (digits, rest) =>
        let n : Int := ofDecimalDigits digits
        (some (if negative then -n else n), rest)
    else (none, s)
  | [] => (none, s)

/-- A number behind its sign: its digits start with a zero only if that is all of them. -/
def readNumber (negative : Bool) (s : List Char) : Option (Except Stop Value × List Char) :=
  let whole :=
    match s with
    | '0' :: _ => ['0']
    | s => s.takeWhile Char.isDigit
  if whole.isEmpty then none
  else
    let (places, rest) := readPlaces (s.drop whole.length)
    let (power, rest) := readPower rest
    if places.isNone && power.isNone then
      if numeralLimit < whole.length then
        some (.error (.number (.tooLong whole.length)), rest)
      else
        let n : Int := ofDecimalDigits whole
        some (.ok (.int (if negative then -n else n)), rest)
    else
      let digits := whole ++ places.getD []
      let shift : Int := (places.getD []).length
      let value := Binary64.ofDecimal negative (ofDecimalDigits digits) (power.getD 0 - shift)
      some (.ok (.float value), rest)

/-! ## Values -/

/-- What follows a word at the front of a text. -/
def afterWord? (word : String) (s : List Char) : Option (List Char) :=
  if word.toList.isPrefixOf s then some (s.drop word.length) else none

/-- A value that is one word, and what follows it. -/
def readWord (s : List Char) : Option (Value × List Char) :=
  let words : List (String × Value) :=
    [("null", .null), ("true", .bool true), ("false", .bool false),
     ("NaN", .float .notANumber), ("Infinity", .float (.infinity false)),
     ("-Infinity", .float (.infinity true))]
  words.findSome? fun (word, v) => (afterWord? word s).map ((v, ·))

/-- A value that is a word or a number. -/
def readPlain (s : List Char) : Except Stop (Value × List Char) :=
  match readWord s with
  | some found => .ok found
  | none =>
    let number :=
      match s with
      | '-' :: rest => readNumber true rest
      | rest => readNumber false rest
    match number with
    | some (.ok v, rest) => .ok (v, rest)
    | some (.error stop, _) => .error stop
    | none => .error (.at .value s.length)

/-- The number of collections within each other that are read. -/
def nestingLimit : Nat := 985

mutual

/-- The value at the front of a text, and what follows it. `fuel` bounds the depth of the calls;
twice the length of the text is enough. So many collections more may be entered. -/
def readValue (fuel levels : Nat) (s : List Char) : Except Stop (Value × List Char) :=
  match fuel, levels, s with
  | 0, _, s => .error (.at .value s.length)
  | _ + 1, _, '"' :: rest =>
    match readText (rest.length + 1) rest with
    | .error e => .error e
    | .ok (text, rest) => .ok (.str ⟨text⟩, rest)
  | _ + 1, 0, '[' :: _ => .error (.tooDeep .list)
  | fuel + 1, levels + 1, '[' :: rest =>
    match skipBlanks rest with
    | ']' :: rest => .ok (.list [], rest)
    | rest =>
      match readItems fuel levels rest with
      | .error e => .error e
      | .ok (items, rest) => .ok (.list items, rest)
  | _ + 1, 0, '\x7b' :: _ => .error (.tooDeep .mapping)
  | fuel + 1, levels + 1, '\x7b' :: rest =>
    match skipBlanks rest with
    | '\x7d' :: rest => .ok (.dict [], rest)
    | rest =>
      match readPairs fuel levels rest with
      | .error e => .error e
      | .ok (pairs, rest) => .ok (.dict (Value.putAll pairs), rest)
  | _ + 1, _, s => readPlain s

/-- The items of a list up to its end. -/
def readItems (fuel levels : Nat) (s : List Char) : Except Stop (List Value × List Char) :=
  match fuel with
  | 0 => .error (.at .value s.length)
  | fuel + 1 =>
    match readValue fuel levels s with
    | .error e => .error e
    | .ok (v, rest) =>
      match skipBlanks rest with
      | ']' :: rest => .ok ([v], rest)
      | ',' :: rest =>
        match readItems fuel levels (skipBlanks rest) with
        | .error e => .error e
        | .ok (items, rest) => .ok (v :: items, rest)
      | rest => .error (.at .comma rest.length)

/-- The pairs of a mapping up to its end. -/
def readPairs (fuel levels : Nat) (s : List Char) :
    Except Stop (List (Value × Value) × List Char) :=
  match fuel, s with
  | 0, s => .error (.at .value s.length)
  | fuel + 1, '"' :: rest =>
    match readText (rest.length + 1) rest with
    | .error e => .error e
    | .ok (key, rest) =>
      match skipBlanks rest with
      | ':' :: rest =>
        match readValue fuel levels (skipBlanks rest) with
        | .error e => .error e
        | .ok (v, rest) =>
          let pair := (Value.str ⟨key⟩, v)
          match skipBlanks rest with
          | '\x7d' :: rest => .ok ([pair], rest)
          | ',' :: rest =>
            match readPairs fuel levels (skipBlanks rest) with
            | .error e => .error e
            | .ok (pairs, rest) => .ok (pair :: pairs, rest)
          | rest => .error (.at .comma rest.length)
      | rest => .error (.at .colon rest.length)
  | _ + 1, s => .error (.at .propertyName s.length)

end

/-- The value that a whole text stands for, or what stops the reading. -/
def readAll (s : List Char) : Except Stop Value :=
  if s.head? = some '\uFEFF' then .error (.at .byteOrderMark s.length)
  else
    match readValue (2 * s.length + 2) nestingLimit (skipBlanks s) with
    | .error e => .error e
    | .ok (v, rest) =>
      match skipBlanks rest with
      | [] => .ok v
      | rest => .error (.at .extra rest.length)

/-- The value that a text stands for. -/
def read (s : String) : Except Fault Value :=
  match readAll s.toList with
  | .ok v => .ok v
  | .error stop => .error (stop.fault s.toList)

end TabAudit.Json
