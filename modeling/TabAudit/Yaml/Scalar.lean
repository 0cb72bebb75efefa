import TabAudit.Text.Basic
import TabAudit.Text.Hex
import TabAudit.Yaml.Cursor
import TabAudit.Yaml.Fault
/-!
# Scalars in a YAML text

A scalar stands between quotes, plain, or as a block of lines of its own. A single end of line
within one becomes a blank, and of several the first is dropped; blocks may keep them all. Every
loop consumes a character each time, so the number of characters left bounds it.
-/

namespace TabAudit.Yaml

namespace Cursor

/-- A bound for loops that consume a character each time. -/
def fuel (c : Cursor) : Nat := c.rest.length + 1

/-- What several ends of lines become: the first a blank if it is alone, and nothing otherwise. -/
def fold (first : Char) (more : List Char) : List Char :=
  (if first ≠ '\n' then [first] else if more.isEmpty then [' '] else []) ++ more

/-! ## Between quotes -/

/-- The ends of blank lines, and the place of the next character that counts. -/
def readBlankLines : Nat → Cursor → Except Fault (List Char × Cursor)
  | 0, _ => .error .malformed
  | fuel + 1, c =>
    if c.atMarker then .error .malformed
    else
      let c := c.skipWhile isGap
      match c.takeBreak with
      | none => .ok ([], c)
      | some (b, c) => (readBlankLines fuel c).map fun (more, c) => (b :: more, c)

/-- What a gap between two words becomes. -/
def readGap (c : Cursor) : Except Fault (List Char × Cursor) :=
  let (blanks, c) := c.span isGap
  if c.atEnd then .error .malformed
  else
    match c.takeBreak with
    | none => .ok (blanks, c)
    | some (b, c) => (readBlankLines c.fuel c).map fun (more, c) => (fold b more, c)

/-- A text between single quotes, from behind the first. -/
def readSingle : Nat → Cursor → Except Fault (List Char × Cursor)
  | 0, _ => .error .malformed
  | fuel + 1, c =>
    match c.rest with
    | [] => .error .malformed
    | '\'' :: '\'' :: _ => (readSingle fuel (skip 2 c)).map fun (text, c) => ('\'' :: text, c)
    | '\'' :: _ => .ok ([], c.next)
    | ch :: _ =>
      if isGap ch || isBreak ch then
        match c.readGap with
        | .error e => .error e
        | .ok (gap, c) => (readSingle fuel c).map fun (text, c) => (gap ++ text, c)
      else (readSingle fuel c.next).map fun (text, c) => (ch :: text, c)

/-- The character that one behind a backslash stands for. -/
def escaped? : Char → Option Char
  | '0' => some '\x00'
  | 'a' => some '\x07'
  | 'b' => some '\x08'
  | 't' => some '\t'
  | '\t' => some '\t'
  | 'n' => some '\n'
  | 'v' => some '\x0b'
  | 'f' => some '\x0c'
  | 'r' => some '\r'
  | 'e' => some '\x1b'
  | ' ' => some ' '
  | '"' => some '"'
  | '\\' => some '\\'
  | '/' => some '/'
  | 'N' => some '\x85'
  | '_' => some '\xa0'
  | 'L' => some '\u2028'
  | 'P' => some '\u2029'
  | _ => none

/-- The number of digits behind a letter that asks for a character by its number. -/
def escapeWidth? : Char → Option Nat
  | 'x' => some 2
  | 'u' => some 4
  | 'U' => some 8
  | _ => none

/-- The number that so many digits in base sixteen stand for. -/
def hexNumber? (width : Nat) (s : List Char) : Option Nat :=
  let digits := (s.take width).filterMap hexValue?
  if digits.length = width then some (digits.foldl (fun n d => n * 16 + d) 0) else none

/-- The code point of a number. -/
def pointOf (code : Nat) : Except Fault CodePoint :=
  match CodePoint.ofCode? code with
  | some p => .ok p
  | none => .error (.noCharacter code)

/-- What a backslash and what follows it stand for, from behind the backslash. -/
def readEscape (c : Cursor) : Except Fault (Text × Cursor) :=
  match escaped? c.peek with
  | some ch => .ok (.ofChars [ch], c.next)
  | none =>
    match escapeWidth? c.peek with
    | some width =>
      match hexNumber? width c.next.rest with
      | none => .error .malformed
      | some code => (pointOf code).map fun p => (⟨[p]⟩, skip width c.next)
    | none =>
      match c.takeBreak with
      | some (_, c) => (readBlankLines c.fuel c).map fun (breaks, c) => (.ofChars breaks, c)
      | none => .error .malformed

/-- A text between double quotes, from behind the first. -/
def readDouble : Nat → Cursor → Except Fault (Text × Cursor)
  | 0, _ => .error .malformed
  | fuel + 1, c =>
    match c.rest with
    | [] => .error .malformed
    | '"' :: _ => .ok (default, c.next)
    | ch :: _ =>
      if ch = '\\' then
        match c.next.readEscape with
        | .error e => .error e
        | .ok (text, c) => (readDouble fuel c).map fun (more, c) => (text.append more, c)
      else if isGap ch || isBreak ch then
        match c.readGap with
        | .error e => .error e
        | .ok (gap, c) =>
          (readDouble fuel c).map fun (text, c) => ((Text.ofChars gap).append text, c)
      else (readDouble fuel c.next).map fun (text, c) => ((Text.ofChars [ch]).append text, c)

/-! ## Plain -/

/-- The marks of collections within a line. -/
def isFlowMark (c : Char) : Bool := c == ',' || c == '[' || c == ']' || c == '\x7b' || c == '\x7d'

/-- The characters of a plain word. -/
def takePlain (flow : Bool) : List Char → List Char
  | [] => []
  | ch :: rest =>
    let next := rest.headD endChar
    if isWordEnd ch || (ch == ':' && (isWordEnd next || (flow && isFlowMark next))) ||
        (flow && (isFlowMark ch || ch == '?')) then []
    else ch :: takePlain flow rest

/-- The ends of blank lines behind a plain word, unless a mark between documents follows. -/
def readPlainBreaks : Nat → Cursor → Option (List Char) × Cursor
  | 0, c => (none, c)
  | fuel + 1, c =>
    let c := c.skipSpaces
    match c.takeBreak with
    | none => (some [], c)
    | some (b, c) =>
      if c.atMarker then (none, c)
      else
        let (more, c) := readPlainBreaks fuel c
        (more.map (b :: ·), c)

/-- What a gap behind a plain word becomes, its end, and whether a line ended in it. Before a mark
between documents it becomes nothing. -/
def readPlainGap (c : Cursor) : List Char × Cursor × Bool :=
  let (blanks, c) := c.span (· == ' ')
  match c.takeBreak with
  | none => (blanks, c, false)
  | some (b, c) =>
    if c.atMarker then ([], c, true)
    else
      match readPlainBreaks c.fuel c with
      | (none, c) => ([], c, true)
      | (some more, c) => (fold b more, c, true)

/-- A plain scalar from a place on, behind a gap: its text, its end, and whether a line ended
behind its last word. `column` is the least column of its further lines. -/
def readPlain (flow : Bool) (column : Nat) :
    Nat → List Char → Bool → Cursor → List Char × Cursor × Bool
  | 0, _, fresh, c => ([], c, fresh)
  | fuel + 1, gap, fresh, c =>
    let word := takePlain flow c.rest
    if c.peek == '#' || word.isEmpty then ([], c, fresh)
    else
      let (next, c, fresh) := (skip word.length c).readPlainGap
      if next.isEmpty || c.peek == '#' || (!flow && c.column < column) then (gap ++ word, c, fresh)
      else
        let (more, c, fresh) := readPlain flow column fuel next fresh c
        (gap ++ word ++ more, c, fresh)

/-! ## Blocks -/

/-- What the line of a block's mark says: whether the ends of lines behind the block are kept or
dropped, and how much deeper the block is. -/
structure BlockHeader where
  keep : Option Bool
  increment : Option Nat
  deriving DecidableEq, Repr

/-- The mark for the ends of lines behind a block. -/
def keepMark? : Char → Option Bool
  | '+' => some true
  | '-' => some false
  | _ => none

/-- The mark for the depth of a block. -/
def depthMark? (c : Char) : Option Nat :=
  if c.isDigit then some (c.toNat - '0'.toNat) else none

/-- The place behind the rest of a line that may hold a comment only. -/
def skipComment (c : Cursor) : Except Fault Cursor :=
  let c := c.skipSpaces
  let c := if c.peek == '#' then c.skipLine else c
  if isLineEnd c.peek then .ok c.skipBreak else .error .malformed

/-- Reads the line of a block's mark from behind the mark. -/
def readHeader (c : Cursor) : Except Fault (BlockHeader × Cursor) :=
  let (header, c) : BlockHeader × Cursor :=
    match keepMark? c.peek, depthMark? c.peek with
    | some keep, _ =>
      match depthMark? c.next.peek with
      | some n => (⟨some keep, some n⟩, skip 2 c)
      | none => (⟨some keep, none⟩, c.next)
    | none, some n =>
      match keepMark? c.next.peek with
      | some keep => (⟨some keep, some n⟩, skip 2 c)
      | none => (⟨none, some n⟩, c.next)
    | none, none => (⟨none, none⟩, c)
  if header.increment = some 0 || !(c.peek == ' ' || isLineEnd c.peek) then .error .malformed
  else c.skipComment.map fun c => (header, c)

/-- The ends of the blank lines in front of a block, the depth of the deepest of them and of the
first line that is none, and the place of that line's text. -/
def detectDepth : Nat → Nat → Cursor → List Char × Nat × Cursor
  | 0, depth, c => ([], depth, c)
  | fuel + 1, depth, c =>
    if c.peek == ' ' then detectDepth fuel (max depth c.next.column) c.next
    else
      match c.takeBreak with
      | none => ([], depth, c)
      | some (b, c) =>
        let (more, depth, c) := detectDepth fuel depth c
        (b :: more, depth, c)

/-- The place behind the indentation of a line, as far as a column. -/
def skipIndent (column : Nat) : Nat → Cursor → Cursor
  | 0, c => c
  | fuel + 1, c =>
    if c.column < column && c.peek == ' ' then skipIndent column fuel c.next else c

/-- The ends of blank lines, and the place of the next line's text at a column. -/
def readBlockBreaks (column : Nat) : Nat → Cursor → List Char × Cursor
  | 0, c => ([], c)
  | fuel + 1, c =>
    let c := c.skipIndent column c.fuel
    match c.takeBreak with
    | none => ([], c)
    | some (b, c) =>
      let (more, c) := readBlockBreaks column fuel c
      (b :: more, c)

/-- The lines of a block at a column. `breaks` are the ends of the blank lines in front. The
result is the text, the end of its last line, the ends of the blank lines behind it, and its
end. -/
def readBlockLines (folded : Bool) (column : Nat) :
    Nat → List Char → Cursor → List Char × List Char × List Char × Cursor
  | 0, breaks, c => ([], [], breaks, c)
  | fuel + 1, breaks, c =>
    if c.column = column && !c.atEnd then
      let flush := !isGap c.peek
      let (line, c) := c.span (!isLineEnd ·)
      let (ending, c) : List Char × Cursor :=
        match c.takeBreak with
        | some (b, c) => ([b], c)
        | none => ([], c)
      let (next, c) := readBlockBreaks column c.fuel c
      if c.column = column && !c.atEnd then
        let joint :=
          if folded && ending == ['\n'] && flush && !isGap c.peek then
            if next.isEmpty then [' '] else []
          else ending
        let (text, last, behind, c) := readBlockLines folded column fuel next c
        (breaks ++ line ++ joint ++ text, last, behind, c)
      else (breaks ++ line, ending, next, c)
    else ([], [], breaks, c)

/-- A block from its mark on. `depth` is the least depth that it can have. -/
def readBlock (folded : Bool) (depth : Nat) (c : Cursor) : Except Fault (List Char × Cursor) :=
  match c.next.readHeader with
  | .error e => .error e
  | .ok (header, c) =>
    let (breaks, column, c) : List Char × Nat × Cursor :=
      match header.increment with
      | none =>
        let (breaks, deepest, c) := detectDepth c.fuel 0 c
        (breaks, max depth deepest, c)
      | some n =>
        let column := depth + n - 1
        let (breaks, c) := readBlockBreaks column c.fuel c
        (breaks, column, c)
    let (text, last, behind, c) := readBlockLines folded column c.fuel breaks c
    .ok (text ++ (if header.keep = some false then [] else last) ++
      (if header.keep = some true then behind else []), c)

end Cursor

end TabAudit.Yaml
