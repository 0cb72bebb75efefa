import TabAudit.Console.Cells
import TabAudit.Text.Blank
/-!
# Lines that fit

A line that is too long for the console goes on in the next one. It is broken behind the blanks that
follow a word; a word that is longer than a whole line is cut where a line is full.
-/

namespace TabAudit.Console

/-- The words of a text, each with the blanks behind it, and the first with those in front. `word`
is the one under way, the last character first; `begun` tells whether it holds more than blanks. -/
def wordsFrom (word : List Char) (begun : Bool) : List Char → List (List Char)
  | [] => [word.reverse]
  | c :: rest =>
    if begun && word.head?.any isBlank && !isBlank c then word.reverse :: wordsFrom [c] true rest
    else wordsFrom (c :: word) (begun || !isBlank c) rest

/-- The words of a text. -/
def words (s : List Char) : List (List Char) := wordsFrom [] false s

/-- The pieces that a word is cut into, each as long as fits. `piece` is the one under way, the last
character first, and takes up so many cells. -/
def cut (width : Nat) (g : Gauge) (used : Nat) (piece : List Char) : List Char → List (List Char)
  | [] => [piece.reverse]
  | c :: rest =>
    let (n, g) := g.step c
    if width < used + n && !piece.isEmpty then piece.reverse :: cut width g n [c] rest
    else cut width g (used + n) (c :: piece) rest

/-- Lines that are being filled with words. -/
structure Filling where
  /-- The lines that are done, the last first. -/
  done : List (List Char)
  /-- The line under way. -/
  line : List Char
  /-- The number of cells that its words take up. -/
  used : Nat
  deriving DecidableEq, Repr

namespace Filling

/-- Lines with one that starts behind the line under way. -/
def startLine (f : Filling) (line : List Char) : Filling :=
  ⟨if f.line.isEmpty then f.done else f.line :: f.done, line, cells line⟩

/-- Lines with a word more. Blanks behind a word do not have to fit. -/
def add (width : Nat) (f : Filling) (word : List Char) : Filling :=
  let size := cells (dropWhileEnd isBlank word)
  if f.used + size ≤ width then ⟨f.done, f.line ++ word, f.used + cells word⟩
  else if width < size then (cut width .start 0 [] word).foldl startLine f
  else f.startLine word

/-- The lines, all of them done. -/
def lines (f : Filling) : List (List Char) := (f.line :: f.done).reverse

end Filling

/-- As much of a line as fits, with a blank in the place of half of a character. -/
def crop (g : Gauge) (room : Nat) : List Char → List Char
  | [] => []
  | c :: rest =>
    let (n, g) := g.step c
    if n ≤ room then c :: crop g (room - n) rest else List.replicate room ' '

/-- A line without the blanks at its end that do not fit. -/
def trimEnd (width : Nat) (s : List Char) : List Char :=
  let blanks := (s.reverse.takeWhile isBlank).length
  crop .start width (s.take (s.length - min blanks (s.length - width)))

/-- The lines that a line is shown in. -/
def wrap (width : Nat) (s : List Char) : List (List Char) :=
  (((words s).foldl (Filling.add width) ⟨[], [], 0⟩).lines).map (trimEnd width)

end TabAudit.Console
