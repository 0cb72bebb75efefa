import TabAudit.Library
/-!
# What commands print on

A terminal lays texts out on its page and draws panels, with a library for texts with markup: tags
in brackets say how a text looks, and names between colons stand for emoji. Data is escaped before
it is put into such a text. Anything that is printed may fail to be.
-/

namespace TabAudit

/-- A table of two columns under a title. -/
structure Panel where
  title : String
  rows : List (String × String)
  deriving DecidableEq, Repr

/-- A terminal. -/
class Terminal where
  /-- Data as it is put into a text with markup. -/
  escape : List Char → List Char
  /-- What a text with markup shows. -/
  shown : List Char → List Char
  /-- The emoji of a name. -/
  emoji? : List Char → Option (List Char)
  /-- The number of columns that a line is laid out in. -/
  width : Nat
  /-- The number of columns that a line takes up. -/
  columns : List Char → Nat
  /-- What is printed for a text, with the end of its line. -/
  page : List Char → List Char
  /-- What is printed for a panel. -/
  panel : Panel → List Char
  /-- Why something cannot be printed behind what was printed before. -/
  outputFault? : List Char → List Char → Option LibraryFault
  /-- Why something cannot be printed as an error. -/
  errorFault? : List Char → Option LibraryFault

namespace Terminal

variable [Terminal]

/-- What is printed for a text with markup. -/
def printed (markup : List Char) : List Char := page (shown markup)

/-- Prints pieces in turn behind what was printed before, up to one that fails: what was printed in
the end, and why no more was. -/
def write (before : List Char) : List (List Char) → List Char × Option LibraryFault
  | [] => (before, none)
  | piece :: rest =>
    match outputFault? before piece with
    | some fault => (before, some fault)
    | none => write (before ++ piece) rest

end Terminal

end TabAudit
