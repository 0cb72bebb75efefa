/-!
# Sizes in memory

What is to be held in memory needs a size, which is a number of 63 bits. That memory runs out is no
part of the model: there is room for whatever has a size.
-/

namespace TabAudit

/-- Numbers from here on are no sizes of anything in memory. -/
def sizeLimit : Nat := 0x8000000000000000

/-- Why something cannot be held in memory. -/
inductive MemoryFault where
  | notASize
  deriving DecidableEq, Repr

def MemoryFault.message : MemoryFault → String
  | .notASize => "cannot fit 'int' into an index-sized integer"

/-- Why so many bytes cannot be held in memory, if so. -/
def memoryFault? (size : Nat) : Option MemoryFault :=
  if sizeLimit ≤ size then some .notASize else none

end TabAudit
