import TabAudit.Text.Pieces
/-!
# Paths

A path is an anchor and the names behind it. The anchor is a drive and a root, either of which may
be empty. Empty names and `.` stand for nothing and are dropped when a path is read; `..` is kept.
-/

namespace TabAudit

/-- A path. -/
structure Path where
  drive : String
  root : String
  names : List String
  deriving DecidableEq, Repr

namespace Path

/-- The names in a text, without those that stand for nothing. -/
def readNames (sep : Char) (s : List Char) : List String :=
  ((splitAtEach sep s).filter fun name => name ≠ [] && name ≠ ['.']).map String.ofList

/-- The names of a path in a row. -/
def joinNames (sep : Char) (names : List String) : String :=
  String.ofList (joinWith sep (names.map String.toList))

/-- A path as it is written; the empty path is written as nothing. -/
def write (sep : Char) (p : Path) : String :=
  p.drive ++ p.root ++ joinNames sep p.names

/-- A path as it is shown; the empty path is shown as a dot. -/
def text (sep : Char) (p : Path) : String :=
  if (p.write sep).isEmpty then "." else p.write sep

/-- A path from the names behind no anchor. -/
def ofNames (names : List String) : Path := ⟨"", "", names⟩

/-- The last name of a path, or nothing. -/
def name (p : Path) : String := p.names.getLast?.getD ""

/-- What stands in a name from its last dot on, unless that dot opens or closes the name. -/
def suffixOf (name : List Char) : List Char :=
  match name.reverse.span (· ≠ '.') with
  | (tail, dot :: front) => if tail.isEmpty || front.isEmpty then [] else dot :: tail.reverse
  | (_, []) => []

/-- The suffix of a path's last name. -/
def suffix (p : Path) : String := String.ofList (suffixOf p.name.toList)

/-! ## The two ways to write paths -/

/-- Reads a path with `/` between its names. Two slashes in front are a root of their own; any
other number is one root. -/
def read (s : String) : Path :=
  let rest := s.toList.dropWhile (· = '/')
  let root :=
    match s.toList.length - rest.length with
    | 0 => ""
    | 2 => "//"
    | _ => "/"
  ⟨"", root, readNames '/' rest⟩

/-- A further path inside a path, or that path itself if it has a root. -/
def join (p q : Path) : Path :=
  if q.root = "" then { p with names := p.names ++ q.names } else q

end Path

end TabAudit
