import TabAudit.Value.Basic
/-!
# The order of sets

A set has a table with a number of slots that is a power of two. A member has a number of 64 bits,
and goes into the slot that its lowest bits name; if that is taken, it goes into one of the next,
or where a sequence of jumps leads that mixes in the higher bits of the number. A table that has
become three fifths full is exchanged for a larger one. The members of a set stand in the order of
their slots.

Only numbers have such a number. A set with other members keeps the order in which they were given.
-/

namespace TabAudit.Slots

/-- The prime that numbers are taken modulo of. -/
def prime : Nat := Nat.pow 2 61 - 1

/-- The number of 64 bits for a sign and a distance from zero. Minus one counts as minus two. -/
def signed (negative : Bool) (n : Nat) : Nat :=
  if negative then (Nat.pow 2 64 - if n = 1 then 2 else n) % Nat.pow 2 64 else n

/-- The number of a member that is a number itself. -/
def code? : Value → Option Nat
  | .bool b => some (if b then 1 else 0)
  | .int n => some (signed (n < 0) (n.natAbs % prime))
  | .float x =>
    if x.isNaN then none
    else if x.isInfinite then some (signed x.negative 314159)
    else some (signed x.negative (x.mantissa * Nat.pow 2 (x.scale % 61).toNat % prime))
  | _ => none

/-- A member with its number. -/
abbrev Entry := Nat × Value

/-- A table of slots. -/
abbrev Table := Array (Option Entry)

/-- The table without members. -/
def Table.empty (size : Nat) : Table := Array.replicate size none

/-- Whether a slot is free. -/
def Table.isFree (t : Table) (slot : Nat) : Bool := (t.getD slot none).isNone

/-- The number of slots behind one that are looked at before a jump. -/
def reach : Nat := 9

/-- A free slot for a member. `bits` are the bits of its number that have not been mixed in yet.
Once there are none left, the jumps come to every slot, which bounds the number of them. -/
def Table.slot (t : Table) : Nat → Nat → Nat → Nat
  | 0, _, slot => slot
  | jumps + 1, bits, slot =>
    let near := if slot + reach < t.size then List.range' slot (reach + 1) else [slot]
    match near.find? t.isFree with
    | some slot => slot
    | none => Table.slot t jumps (bits / 32) ((slot * 5 + 1 + bits / 32) % t.size)

/-- The table with a member in a free slot. -/
def Table.put (t : Table) (e : Entry) : Table :=
  t.setIfInBounds (t.slot (t.size + 13) e.1 (e.1 % t.size)) (some e)

/-- The members of a table. -/
def Table.entries (t : Table) : List Entry := t.toList.filterMap id

/-- A larger table, with more slots than some number. -/
def Table.grow (t : Table) (least : Nat) : Table :=
  t.entries.foldl Table.put (Table.empty (max 8 (Nat.pow 2 (least.log2 + 1))))

/-- Whether a table with so many members is too full. -/
def Table.isFull (t : Table) (count : Nat) : Bool := (t.size - 1) * 3 ≤ count * 5

/-- The table with one more member. -/
def Table.add (t : Table) (e : Entry) : Table :=
  let count := t.entries.length + 1
  let t := t.put e
  if t.isFull count then t.grow (count * 4) else t

/-- The table that members are put into one by one. -/
def Table.start : Table := Table.empty 8

/-- The table that so many members are put into at once. -/
def Table.startFor (count : Nat) : Table :=
  if Table.start.isFull count then Table.start.grow (count * 2) else Table.start

/-- Members in the order of their slots. -/
def arrange (start : Table) (members : List Value) : List Value :=
  match members.mapM fun v => (code? v).map ((·, v)) with
  | none => members
  | some entries => (entries.foldl Table.add start).entries.map Prod.snd

/-- The members of a set that is made from the keys of a mapping. -/
def ofKeys (keys : List Value) : List Value := arrange (Table.startFor keys.length) keys

/-- The members of a set that is made from a list. -/
def ofList (members : List Value) : List Value := arrange Table.start members

end TabAudit.Slots

namespace TabAudit.Value

mutual

/-- A copy of a value. The sets in it are made anew from their members. -/
def copied : Value → Value
  | list items => list (copiedAll items)
  | tuple items => tuple (copiedAll items)
  | set members => set (Slots.ofList members)
  | dict pairs => dict (copiedPairs pairs)
  | v => v

/-- Copies of values. -/
def copiedAll : List Value → List Value
  | [] => []
  | v :: rest => v.copied :: copiedAll rest

/-- Pairs with copies of their values. -/
def copiedPairs : List (Value × Value) → List (Value × Value)
  | [] => []
  | (k, v) :: rest => (k, v.copied) :: copiedPairs rest

end

end TabAudit.Value
