/-!
# Faults of libraries

What goes wrong inside a library comes out as a fault of some kind. Callers tell faults apart by
their kinds; the rest of a fault is its wording.
-/

namespace TabAudit

/-- The kinds of faults. A fault is of the narrowest kind that it fits. -/
inductive FaultKind where
  /-- Bytes are wrong in their encoding. -/
  | undecodable
  /-- Something else has a value that will not do. -/
  | value
  /-- Something is of a type that will not do. -/
  | type
  /-- The system denies permission. -/
  | denied
  /-- The system refuses for another cause. -/
  | system
  /-- A text is no YAML. -/
  | yaml
  /-- A kind that nobody asks for, by its name. -/
  | other (name : String)
  deriving DecidableEq, Repr

/-- A fault of a library. -/
structure LibraryFault where
  kind : FaultKind
  message : String
  deriving DecidableEq, Repr

end TabAudit
