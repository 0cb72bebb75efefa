/-!
# Lines

Text files may end their lines in three ways; read, each is a `\n`. Printed text is cut into lines
at every character that any terminal takes for a break.
-/

namespace TabAudit

/-- A text with every line end written as `\n`. -/
def unifyLineEnds : List Char → List Char
  | [] => []
  | '\r' :: '\n' :: rest => '\n' :: unifyLineEnds rest
  | '\r' :: rest => '\n' :: unifyLineEnds rest
  | c :: rest => c :: unifyLineEnds rest

/-- A text as it is read from a text file. -/
def textAsRead (s : String) : String := String.ofList (unifyLineEnds s.toList)

/-- Whether a character ends a printed line. -/
def breaksLine (c : Char) : Bool :=
  let n := c.toNat
  (10 ≤ n && n ≤ 13) || (28 ≤ n && n ≤ 30) || n == 0x85 || n == 0x2028 || n == 0x2029

/-- The lines of a text behind the start `line`, which is there reversed. A text that ends in a
break has no further line. -/
def linesFrom (line : List Char) : List Char → List String
  | [] => if line.isEmpty then [] else [String.ofList line.reverse]
  | '\r' :: '\n' :: rest => String.ofList line.reverse :: linesFrom [] rest
  | c :: rest =>
    if breaksLine c then String.ofList line.reverse :: linesFrom [] rest
    else linesFrom (c :: line) rest

/-- The lines of a printed text. -/
def printedLines (s : String) : List String :=
  linesFrom [] s.toList

end TabAudit
