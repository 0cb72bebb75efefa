/-!
# Where tabs stand

Lines and columns count from one, columns in characters. A line ends at `\r\n`, a lone `\r` or a
lone `\n`, also when the text comes in pieces and a piece ends between `\r` and `\n`.
-/

namespace TabAudit

/-- The place of a character in a text. -/
structure Position where
  line : Nat
  column : Nat
  deriving DecidableEq, Repr

/-- Where a text read so far ends, and whether its last character is `\r`. -/
structure Tracker where
  line : Nat
  column : Nat
  afterReturn : Bool
  deriving DecidableEq, Repr

namespace Tracker

/-- Nothing read yet. -/
def initial : Tracker := ⟨1, 1, false⟩

/-- The tabs of a piece and the place after it. `offset` counts the characters of the piece that
are done; the character at `anchor` has column `base`. A `\n` that opens the piece ends no line
of its own when `joined` says that a `\r` stands before it. -/
def sweep (joined : Bool) (line offset anchor base : Nat) : List Char → List Position × Nat × Nat
  | [] => ([], line, base + offset - anchor)
  | '\t' :: rest =>
    let (tabs, last) := sweep joined line (offset + 1) anchor base rest
    (⟨line, base + offset - anchor⟩ :: tabs, last)
  | '\r' :: '\n' :: rest => sweep joined (line + 1) (offset + 2) (offset + 2) 1 rest
  | '\r' :: rest => sweep joined (line + 1) (offset + 1) (offset + 1) 1 rest
  | '\n' :: rest =>
    let line := if joined && offset == 0 then line else line + 1
    sweep joined line (offset + 1) (offset + 1) 1 rest
  | _ :: rest => sweep joined line (offset + 1) anchor base rest

/-- The tabs of a further piece of the text, and the place after it. -/
def feed (t : Tracker) (piece : List Char) : List Position × Tracker :=
  let (tabs, line, column) := sweep t.afterReturn t.line 0 0 t.column piece
  (tabs, ⟨line, column, if piece.isEmpty then t.afterReturn else piece.getLast? == some '\r'⟩)

end Tracker

end TabAudit
