import TabAudit.Console.Wrap
import TabAudit.Text.Lines
import TabAudit.Text.Pieces
/-!
# What the console shows

A printed text loses the control characters that would move the cursor or ring a bell, its tabs
become blanks up to the next stop, and its lines are broken where they do not fit.
-/

namespace TabAudit.Console

/-- The control characters that are not shown. -/
def isDropped (c : Char) : Bool := ['\x07', '\x08', '\x0b', '\x0c', '\r'].contains c

/-- The distance between two tab stops. -/
def tabWidth : Nat := 8

/-- The parts of a line between its tabs, from a column on, with blanks in the place of tabs: one at
least, and more up to the next stop. -/
def expandFrom (column : Nat) : List (List Char) → List Char
  | [] => []
  | [last] => last
  | part :: rest =>
    let reached := column + cells (part ++ [' '])
    let more := (tabWidth - reached % tabWidth) % tabWidth
    part ++ List.replicate (more + 1) ' ' ++ expandFrom (reached + more) rest

/-- A line with blanks in the place of tabs. -/
def expandTabs (line : List Char) : List Char := expandFrom 0 (splitAtEach '\t' line)

/-- The lines of some width that a line of a text is shown in. -/
def shownLines (width : Nat) (line : List Char) : List (List Char) :=
  wrap width (expandTabs line)

/-- What is shown of a text in lines of some width, with the end of its line. -/
def page (width : Nat) (s : List Char) : List Char :=
  let lines := splitAtEach '\n' (s.filter (!isDropped ·))
  joinWith '\n' (lines.flatMap (shownLines width)) ++ ['\n']

end TabAudit.Console
