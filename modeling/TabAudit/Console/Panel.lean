import TabAudit.Terminal
/-!
# Panels

A panel is drawn in a box with rounded corners. Its title stands in the middle of the upper edge,
and a blank line between each two rows.
-/

namespace TabAudit.Panel

/-- The size of the longest text. -/
def widest (texts : List String) : Nat := (texts.map String.length).foldl max 0

/-- A text with blanks behind it up to a width. -/
def pad (width : Nat) (s : String) : List Char :=
  s.toList ++ List.replicate (width - s.length) ' '

/-- The width of the table. -/
def tableWidth (p : Panel) : Nat :=
  widest (p.rows.map Prod.fst) + 1 + widest (p.rows.map Prod.snd)

/-- The width between the edges: that of the table or of the title, whichever is wider, with a
blank on both sides. -/
def innerWidth (p : Panel) : Nat := max (p.tableWidth + 2) (p.title.length + 4)

/-- A piece of a level edge. -/
def edge (size : Nat) : List Char := List.replicate size '─'

/-- The upper edge. What is left over is shared by both sides of the title. -/
def topLine (p : Panel) : List Char :=
  let excess := p.innerWidth - 4 - p.title.length
  '╭' :: edge (1 + excess / 2) ++ ' ' :: p.title.toList ++ ' ' :: edge (excess - excess / 2 + 1) ++
    ['╮']

/-- The lower edge. -/
def bottomLine (p : Panel) : List Char := '╰' :: edge p.innerWidth ++ ['╯']

/-- A line between the edges. -/
def innerLine (p : Panel) (content : String) : List Char :=
  '│' :: ' ' :: pad (p.innerWidth - 2) content ++ [' ', '│']

/-- A row of the table. -/
def rowLine (p : Panel) (row : String × String) : List Char :=
  p.innerLine (String.ofList (pad (widest (p.rows.map Prod.fst)) row.1 ++ ' ' :: row.2.toList))

/-- The lines of a panel. -/
def lines (p : Panel) : List (List Char) :=
  p.topLine :: (p.rows.map p.rowLine).intersperse (p.innerLine "") ++ [p.bottomLine]

/-- A panel as it is printed. -/
def printed (p : Panel) : List Char := p.lines.flatMap (· ++ ['\n'])

end TabAudit.Panel
