import TabAudit.Number.Shortest
import TabAudit.Text.Hex
import TabAudit.Value.Display
/-!
# Writing JSON

A value is written over several lines, two blanks deeper for each level, in ASCII alone. Lists and
mappings without members stay on one line. A whole number of too many digits is not written.
-/

namespace TabAudit.Json

/-- Why a value has no JSON text. -/
inductive WriteFault where
  | value (v : Value)
  | key (v : Value)
  | tooManyDigits
  deriving Repr

def WriteFault.message : WriteFault → String
  | .value v => s!"Object of type {v.shortKindName} is not JSON serializable"
  | .key v => s!"keys must be str, int, float, bool or None, not {v.shortKindName}"
  | .tooManyDigits => DisplayFault.tooManyDigits.message

/-- A code unit as an escape. -/
def unitEscape (n : Nat) : List Char := '\\' :: 'u' :: hexDigits 4 n

/-- A character between quotes. -/
def textChar (c : Char) : List Char :=
  match c with
  | '"' => ['\\', '"']
  | '\\' => ['\\', '\\']
  | '\n' => ['\\', 'n']
  | '\r' => ['\\', 'r']
  | '\t' => ['\\', 't']
  | '\x0c' => ['\\', 'f']
  | '\x08' => ['\\', 'b']
  | c =>
    let n := c.toNat
    if 32 ≤ n && n < 127 then [c]
    else if n < 0x10000 then unitEscape n
    else unitEscape (0xD800 + (n - 0x10000) / 1024) ++ unitEscape (0xDC00 + (n - 0x10000) % 1024)

/-- A code point between quotes. -/
def textPoint : CodePoint → List Char
  | .char c => textChar c
  | .half n => unitEscape (CodePoint.half n).code

/-- A text between quotes. -/
def writeText (t : Text) : List Char := '"' :: t.points.flatMap textPoint ++ ['"']

/-- A whole number. -/
def writeInt (n : Int) : Except WriteFault (List Char) :=
  match showInt n with
  | .ok text => .ok text.toList
  | .error _ => .error .tooManyDigits

/-- A floating-point number, or the name of what is none. -/
def writeFloat (x : Binary64) : List Char :=
  if x.isNaN then ['N', 'a', 'N']
  else if x.isInfinite then
    (if x.negative then ['-'] else []) ++ ['I', 'n', 'f', 'i', 'n', 'i', 't', 'y']
  else x.text.toList

/-- The text of a key. -/
def keyText : Value → Except WriteFault Text
  | .str s => .ok s
  | .int n => (writeInt n).map .ofChars
  | .float x => .ok (.ofChars (writeFloat x))
  | .bool true => .ok "true"
  | .bool false => .ok "false"
  | .null => .ok "null"
  | v => .error (.key v)

/-- A new line at a depth. -/
def newLine (depth : Nat) : List Char := '\n' :: List.replicate (2 * depth) ' '

/-- Members at a depth between brackets. -/
def enclose (opening closing : Char) (depth : Nat) : List (List Char) → List Char
  | [] => [opening, closing]
  | first :: rest =>
    opening :: newLine (depth + 1) ++ first ++
      (rest.flatMap fun member => ',' :: newLine (depth + 1) ++ member) ++
      newLine depth ++ [closing]

mutual

/-- The text of a value at a depth. -/
def writeValue (depth : Nat) : Value → Except WriteFault (List Char)
  | .null => .ok ['n', 'u', 'l', 'l']
  | .bool true => .ok ['t', 'r', 'u', 'e']
  | .bool false => .ok ['f', 'a', 'l', 's', 'e']
  | .int n => writeInt n
  | .float x => .ok (writeFloat x)
  | .str s => .ok (writeText s)
  | .list items =>
    match writeItems (depth + 1) items with
    | .error e => .error e
    | .ok members => .ok (enclose '[' ']' depth members)
  | .tuple items =>
    match writeItems (depth + 1) items with
    | .error e => .error e
    | .ok members => .ok (enclose '[' ']' depth members)
  | .dict pairs =>
    match writePairs (depth + 1) pairs with
    | .error e => .error e
    | .ok members => .ok (enclose '\x7b' '\x7d' depth members)
  | v => .error (.value v)

/-- The texts of items at a depth. -/
def writeItems (depth : Nat) : List Value → Except WriteFault (List (List Char))
  | [] => .ok []
  | v :: rest =>
    match writeValue depth v with
    | .error e => .error e
    | .ok text =>
      match writeItems depth rest with
      | .error e => .error e
      | .ok texts => .ok (text :: texts)

/-- The texts of pairs at a depth. -/
def writePairs (depth : Nat) : List (Value × Value) → Except WriteFault (List (List Char))
  | [] => .ok []
  | (k, v) :: rest =>
    match keyText k with
    | .error e => .error e
    | .ok key =>
      match writeValue depth v with
      | .error e => .error e
      | .ok text =>
        match writePairs depth rest with
        | .error e => .error e
        | .ok texts => .ok ((writeText key ++ ':' :: ' ' :: text) :: texts)

end

/-- The JSON text of a value. -/
def write (v : Value) : Except WriteFault String :=
  match writeValue 0 v with
  | .error e => .error e
  | .ok text => .ok (String.ofList text)

end TabAudit.Json
