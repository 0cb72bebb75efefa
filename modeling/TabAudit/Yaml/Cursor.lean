/-!
# Walking through a YAML text

A cursor is a place in a text, with its line and its column. At the end of the text it sees a zero
character, which no such text holds.
-/

namespace TabAudit.Yaml

/-- A place in a text: what follows it, how many characters stand before it, and its line and
column, both counted from zero. -/
structure Cursor where
  rest : List Char
  index : Nat
  line : Nat
  column : Nat
  deriving Repr

/-- Whether a character ends a line. -/
def isBreak (c : Char) : Bool :=
  c == '\n' || c == '\r' || c == '\x85' || c == '\u2028' || c == '\u2029'

/-- The character of the end of a text. -/
def endChar : Char := '\x00'

/-- Whether a character ends a line or the text. -/
def isLineEnd (c : Char) : Bool := c == endChar || isBreak c

/-- Whether a character is a blank or a tab. -/
def isGap (c : Char) : Bool := c == ' ' || c == '\t'

/-- Whether a character ends a word: a blank, a tab, or the end of a line or the text. -/
def isWordEnd (c : Char) : Bool := c == ' ' || c == '\t' || isLineEnd c

namespace Cursor

/-- The start of a text. -/
def start (s : List Char) : Cursor := ⟨s, 0, 0, 0⟩

/-- The character at a cursor. -/
def peek (c : Cursor) : Char := c.rest.headD endChar

/-- The character so many further on. -/
def peekAt (c : Cursor) (n : Nat) : Char := c.rest.getD n endChar

/-- Whether a cursor is at the end of its text. -/
def atEnd (c : Cursor) : Bool := c.rest.isEmpty

/-- The next place. A byte order mark takes no column. -/
def next (c : Cursor) : Cursor :=
  match c.rest with
  | [] => c
  | ch :: rest =>
    if isBreak ch && !(ch == '\r' && rest.head? == some '\n') then
      ⟨rest, c.index + 1, c.line + 1, 0⟩
    else ⟨rest, c.index + 1, c.line, if ch == '\uFEFF' then c.column else c.column + 1⟩

/-- The place so many characters further on. -/
def skip : Nat → Cursor → Cursor
  | 0, c => c
  | n + 1, c => skip n c.next

/-- The characters up to the first that fails a test, and the place of that one. -/
def span (test : Char → Bool) (c : Cursor) : List Char × Cursor :=
  let taken := c.rest.takeWhile test
  (taken, skip taken.length c)

/-- The place of the first character that fails a test. -/
def skipWhile (test : Char → Bool) (c : Cursor) : Cursor := (c.span test).2

/-- The place behind the blanks. -/
def skipSpaces (c : Cursor) : Cursor := c.skipWhile (· == ' ')

/-- The place of the end of the line. -/
def skipLine (c : Cursor) : Cursor := c.skipWhile (!isLineEnd ·)

/-- The end of line at a cursor, in the form that texts keep it, and the place behind it. -/
def takeBreak (c : Cursor) : Option (Char × Cursor) :=
  match c.rest with
  | '\r' :: '\n' :: _ => some ('\n', skip 2 c)
  | ch :: _ =>
    if ch == '\u2028' || ch == '\u2029' then some (ch, c.next)
    else if isBreak ch then some ('\n', c.next)
    else none
  | [] => none

/-- The place behind the end of line at a cursor, if there is one. -/
def skipBreak (c : Cursor) : Cursor :=
  match c.takeBreak with
  | some (_, c) => c
  | none => c

/-- Whether three characters of one kind and the end of a word stand at a cursor. -/
def atTriple (ch : Char) (c : Cursor) : Bool :=
  c.peek == ch && c.peekAt 1 == ch && c.peekAt 2 == ch && isWordEnd (c.peekAt 3)

/-- Whether the mark between two documents or behind one stands at a cursor. -/
def atMarker (c : Cursor) : Bool := c.atTriple '-' || c.atTriple '.'

end Cursor

end TabAudit.Yaml
