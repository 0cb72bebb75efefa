/-!
# Sets of characters

A set is kept as the code points, in ascending order, at which membership changes.
-/

namespace TabAudit

/-- The code points at which membership in a set changes. -/
abbrev CharSet := List Nat

namespace CharSet

/-- Whether a code point is in a set, given whether the code points before the first change are. -/
def holdsFrom (inside : Bool) (n : Nat) : CharSet → Bool
  | [] => inside
  | change :: rest => if n < change then inside else holdsFrom (!inside) n rest

/-- Whether a character is in a set. -/
def holds (set : CharSet) (c : Char) : Bool :=
  holdsFrom false c.toNat set

end CharSet

end TabAudit
