import TabAudit.Library
import TabAudit.Number.Shortest
import TabAudit.Text.Quoted
import TabAudit.Value.Basic
/-!
# Values in messages

A message shows a value as it would be written in a program. Items keep their order. A collection
that is met again within itself is shown by its brackets and dots. A whole number of too many
digits is not shown, and neither is a value that is too deep within others, nor anything that holds
one of these.
-/

namespace TabAudit

/-- Texts in a row, a comma and a blank between each two. -/
def commaList (items : List String) : String := ", ".intercalate items

/-- The offset of a clock as it is shown. -/
def offsetDisplay (offset : Int) : String :=
  if offset = 0 then "datetime.timezone.utc"
  else if 0 < offset then s!"datetime.timezone(datetime.timedelta(seconds={intText offset}))"
  else s!"datetime.timezone(datetime.timedelta(days=-1, seconds={intText (offset + 86400)}))"

/-- A day as it is shown. -/
def Date.display (d : Date) : String :=
  s!"datetime.date({d.year}, {d.month}, {d.day})"

/-- A moment as it is shown: seconds and their parts only if there are any. -/
def DateTime.display (t : DateTime) : String :=
  let clock :=
    if t.microsecond ≠ 0 then s!", {t.second}, {t.microsecond}"
    else if t.second ≠ 0 then s!", {t.second}"
    else ""
  let offset := match t.offset with
    | some offset => ", tzinfo=" ++ offsetDisplay offset
    | none => ""
  s!"datetime.datetime({t.date.year}, {t.date.month}, {t.date.day}, " ++
    s!"{t.hour}, {t.minute}{clock}{offset})"

/-- The number of digits that a whole number may be shown with. -/
def shownDigits : Nat := 4300

/-- Why a value cannot be shown. -/
inductive DisplayFault where
  | tooManyDigits
  | tooDeep
  deriving DecidableEq, Repr

def DisplayFault.message : DisplayFault → String
  | .tooManyDigits =>
    s!"Exceeds the limit ({shownDigits} digits) for integer string conversion; use " ++
      "sys.set_int_max_str_digits() to increase the limit"
  | .tooDeep => "maximum recursion depth exceeded while getting the repr of an object"

/-- The kind of a fault. -/
def DisplayFault.kind : DisplayFault → FaultKind
  | .tooManyDigits => .value
  | .tooDeep => .other "RecursionError"

/-- A whole number as it is shown. -/
def showInt (n : Int) : Except DisplayFault String :=
  if n.natAbs < Nat.pow 10 shownDigits then .ok (intText n) else .error .tooManyDigits

/-- A message about something that is shown in it. -/
def messageWith (shown : Except DisplayFault String) (message : String → String) : String :=
  match shown with
  | .ok shown => message shown
  | .error fault => fault.message

namespace Value

/-- A collection that is met again while it is being shown. -/
def metAgain : Value → String
  | list _ => "[...]"
  | tuple _ => "(...)"
  | set _ => "set(...)"
  | _ => "\x7b...\x7d"

/-- Items as they are shown. -/
def tupleText : List String → String
  | [item] => "(" ++ item ++ ",)"
  | items => "(" ++ commaList items ++ ")"

/-- Members of a set as they are shown. -/
def setText : List String → String
  | [] => "set()"
  | items => "\x7b" ++ commaList items ++ "\x7d"

/-- The number of values that are shown within a moment: its offset, and the span of that unless it
is nothing. -/
def offsetDepth : Option Int → Nat
  | none => 0
  | some 0 => 1
  | some _ => 2

/-- What is shown of a value among the collections of a web, those at `path` being shown: a member
is the collection at its place, which then is being shown as well, or the text of one that is met
again. -/
def entered (web : List Value) (path : List Nat) : Value → String ⊕ (List Nat × Value)
  | member place =>
    let v := web.getD place null
    if path.contains place then .inl v.metAgain else .inr (place :: path, v)
  | v => .inr (path, v)

/-- A value as it is shown among the collections of a web, those at `path` being shown. So many more
values can be shown within each other. -/
def displayIn (web : List Value) : Nat → List Nat → Value → Except DisplayFault String
  | 0, _, _ => .error .tooDeep
  | room + 1, path, v =>
    match entered web path v with
    | .inl shown => .ok shown
    | .inr (path, v) =>
      match v with
      | null => .ok "None"
      | bool b => .ok (if b then "True" else "False")
      | int n => showInt n
      | float x => .ok x.text
      | str s => .ok (quoted s)
      | bytes bs => .ok (quotedBytes bs)
      | date d => .ok d.display
      | dateTime t => if room < offsetDepth t.offset then .error .tooDeep else .ok t.display
      | list items => (items.mapM (displayIn web room path)).map fun items =>
          "[" ++ commaList items ++ "]"
      | tuple items => (items.mapM (displayIn web room path)).map tupleText
      | set [] => .ok (setText [])
      | set items =>
        -- The members are shown as a list is, which is a value of its own.
        match room with
        | 0 => .error .tooDeep
        | room + 1 => (items.mapM (displayIn web room path)).map setText
      | dict pairs =>
        (pairs.mapM fun (k, v) => do
          let k ← displayIn web room path k
          let v ← displayIn web room path v
          return k ++ ": " ++ v).map fun pairs => "\x7b" ++ commaList pairs ++ "\x7d"
      | endless .. => .ok "..."
      | member _ => .ok "..."

/-- A value as it is shown where so many values can be shown within each other. -/
def display (room : Nat) : Value → Except DisplayFault String
  | endless web place => displayIn web room [] (member place)
  | v => displayIn [] room [] v

mutual

/-- Whether every whole number in a value can be shown. -/
def isShowable : Value → Bool
  | int n => (showInt n).isOk
  | list items => areShowable items
  | tuple items => areShowable items
  | set items => areShowable items
  | dict pairs => pairsAreShowable pairs
  | _ => true

/-- Whether every whole number in some values can be shown. -/
def areShowable : List Value → Bool
  | [] => true
  | v :: rest => v.isShowable && areShowable rest

/-- Whether every whole number in some pairs can be shown. -/
def pairsAreShowable : List (Value × Value) → Bool
  | [] => true
  | (k, v) :: rest => k.isShowable && v.isShowable && pairsAreShowable rest

end

/-- A value as text: a text is itself, dates are as they are written, and all else is shown. -/
def text (room : Nat) (v : Value) : Except DisplayFault String :=
  match v with
  | str s => .ok s.shown
  | date d => .ok d.text
  | dateTime t => .ok t.text
  | v => v.display room

end Value

end TabAudit
