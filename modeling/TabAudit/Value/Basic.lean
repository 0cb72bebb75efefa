import TabAudit.Number.Binary64
import TabAudit.Text.Basic
import TabAudit.Value.Calendar
/-!
# Values of settings

What a settings file can hold, before anyone has looked whether it makes sense. A mapping keeps
its keys in the order in which they were first given. A collection may hold itself, at some depth:
such a value is an endless one, given by the collections that it is made of.
-/

namespace TabAudit

/-- A value in a settings file. -/
inductive Value where
  | null
  | bool (b : Bool)
  | int (n : Int)
  | float (x : Binary64)
  | str (s : Text)
  | bytes (bs : List UInt8)
  | date (d : Date)
  | dateTime (t : DateTime)
  | list (items : List Value)
  /-- A row of fixed length. -/
  | tuple (items : List Value)
  | set (items : List Value)
  | dict (pairs : List (Value × Value))
  /-- The collection of a number among some that hold each other. -/
  | endless (web : List Value) (place : Nat)
  /-- Among collections that hold each other, the one of a number. -/
  | member (place : Nat)
  deriving Repr, Inhabited

namespace Value

/-- A number as a whole number, if it is one that a key can be compared by. -/
def whole? : Value → Option Int
  | bool b => some (if b then 1 else 0)
  | int n => some n
  | _ => none

/-- Whether two keys count as one. Numbers do when they are equal, whatever their kinds. -/
def sameKey : Value → Value → Bool
  | null, null => true
  | str s, str t => s = t
  | bytes a, bytes b => a = b
  | date a, date b => a = b
  | dateTime a, dateTime b => a.same b
  | float x, float y => x.same y
  | float x, b => match b.whole? with
    | some n => x.isInt n
    | none => false
  | a, float y => match a.whole? with
    | some n => y.isInt n
    | none => false
  | a, b => match a.whole?, b.whole? with
    | some m, some n => m = n
    | _, _ => false

/-- The value of a key in a mapping's pairs. -/
def find? (key : Value) : List (Value × Value) → Option Value
  | [] => none
  | (k, v) :: rest => if sameKey k key then some v else find? key rest

/-- A mapping's pairs with a value for a key, in the place of the one it had or else at the end. -/
def put {α : Type} (key : Value) (value : α) : List (Value × α) → List (Value × α)
  | [] => [(key, value)]
  | (k, v) :: rest => if sameKey k key then (k, value) :: rest else (k, v) :: put key value rest

/-- A mapping's pairs from pairs given in a row. -/
def putAll {α : Type} (pairs : List (Value × α)) : List (Value × α) :=
  pairs.foldl (fun done (k, v) => put k v done) []

/-! ## Endless values -/

/-- A part of a collection among some that hold each other, as a value of its own. -/
def close (web : List Value) : Value → Value
  | member place => endless web place
  | v => v

/-- A value whose outermost collection can be seen. -/
def opened : Value → Value
  | endless web place =>
    match web[place]? with
    | some (list items) => list (items.map (close web))
    | some (tuple items) => tuple (items.map (close web))
    | some (dict pairs) => dict (pairs.map fun (k, v) => (k, close web v))
    | some v => v
    | none => null
  | v => v

mutual

/-- The number of collections within each other in a value, unless it is endless. -/
def depth? : Value → Option Nat
  | list items => (depthOfAll? items).map (· + 1)
  | tuple items => (depthOfAll? items).map (· + 1)
  | set _ => some 1
  | dict pairs => (depthOfPairs? pairs).map (· + 1)
  | endless .. => none
  | member _ => none
  | _ => some 0

/-- The greatest depth of values. -/
def depthOfAll? : List Value → Option Nat
  | [] => some 0
  | v :: rest =>
    match v.depth?, depthOfAll? rest with
    | some m, some n => some (max m n)
    | _, _ => none

/-- The greatest depth of the values of pairs. -/
def depthOfPairs? : List (Value × Value) → Option Nat
  | [] => some 0
  | (_, v) :: rest =>
    match v.depth?, depthOfPairs? rest with
    | some m, some n => some (max m n)
    | _, _ => none

end

/-! ## Kinds -/

/-- Whether a value counts as something rather than nothing. -/
def isTruthy : Value → Bool
  | null => false
  | bool b => b
  | int n => n ≠ 0
  | float x => !x.isZero
  | str s => !s.isEmpty
  | bytes bs => !bs.isEmpty
  | list items => !items.isEmpty
  | tuple items => !items.isEmpty
  | set items => !items.isEmpty
  | dict pairs => !pairs.isEmpty
  | _ => true

/-- The name of a value's kind in messages. -/
def kindName (v : Value) : String :=
  match v.opened with
  | null => "NoneType"
  | bool _ => "bool"
  | int _ => "int"
  | float _ => "float"
  | str _ => "str"
  | bytes _ => "bytes"
  | date _ => "datetime.date"
  | dateTime _ => "datetime.datetime"
  | tuple _ => "tuple"
  | set _ => "set"
  | dict _ => "dict"
  | _ => "list"

/-- The name of a value's kind without the group that it belongs to. -/
def shortKindName : Value → String
  | date _ => "date"
  | dateTime _ => "datetime"
  | v => v.kindName

end Value

end TabAudit
