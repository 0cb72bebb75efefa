import TabAudit.Number.Shortest
import TabAudit.Text.Hex
import TabAudit.Value.Basic
import TabAudit.Yaml.Binary
import TabAudit.Yaml.Kind
/-!
# Writing YAML

Each member of a collection stands on a line of its own, in ASCII alone. A text is written plain
if it reads back as a text, else between single quotes, or between double ones if it holds
characters that have to be escaped. Lines are folded at blanks once they are wider than eighty
columns.
-/

namespace TabAudit.Yaml

/-- A page under way: what is written, in reverse, the column, whether a blank would be too much
here, and whether the line holds nothing but indentation and marks. -/
structure Page where
  written : List Char
  column : Nat
  blank : Bool
  fresh : Bool
  deriving Repr

namespace Page

/-- An empty page. -/
def empty : Page := ⟨[], 0, true, true⟩

/-- The width at which lines are folded. -/
def width : Nat := 80

/-- A page with more text in its line. -/
def put (p : Page) (text : List Char) : Page :=
  { p with written := text.reverse ++ p.written, column := p.column + text.length }

/-- A page with a mark, with a blank in front if it needs one. -/
def mark (p : Page) (text : String) (apart blank fresh : Bool) : Page :=
  let p := p.put (if apart && !p.blank then ' ' :: text.toList else text.toList)
  { p with blank := blank, fresh := p.fresh && fresh }

/-- A page with the end of its line. -/
def endLine (p : Page) : Page := ⟨'\n' :: p.written, 0, true, true⟩

/-- A page at an indentation, on a new line if need be. -/
def indentTo (p : Page) (indent : Nat) : Page :=
  let p :=
    if !p.fresh || indent < p.column || (p.column = indent && !p.blank) then p.endLine else p
  if p.column < indent then
    { p.put (List.replicate (indent - p.column) ' ') with blank := true }
  else p

end Page

/-! ## How a scalar is written -/

/-- The styles of scalars. -/
inductive Style where
  | plain
  | single
  | double
  | block
  deriving DecidableEq, Repr

/-- What a text holds that keeps it from being written in some style. -/
structure Traits where
  /-- It could be taken for a mark. -/
  marks : Bool
  breaks : Bool
  /-- It holds characters that have to be escaped, or blanks in front of an end of line. -/
  escapes : Bool
  /-- A blank or an end of line stands at one of its ends. -/
  loose : Bool
  /-- A blank stands behind an end of line. -/
  indented : Bool
  deriving DecidableEq, Repr

/-- Whether a character is written as it is. -/
def isPlainAscii (c : Char) : Bool := c == '\n' || (32 ≤ c.toNat && c.toNat ≤ 126)

/-- The ends of lines that a text to be written may hold. -/
def isTextBreak (c : Char) : Bool :=
  c == '\n' || c == '\x85' || c == '\u2028' || c == '\u2029'

/-- Whether some two neighbours in a text satisfy a test. -/
def anyNeighbours (test : Char → Char → Bool) : List Char → Bool
  | a :: b :: rest => test a b || anyNeighbours test (b :: rest)
  | _ => false

/-- Whether the front of a text could be taken for a mark. -/
def startsMark (s : List Char) : Bool :=
  let alone := isWordEnd ((s.drop 1).headD endChar)
  ['-', '-', '-'].isPrefixOf s || ['.', '.', '.'].isPrefixOf s ||
    match s with
    | [] => false
    | c :: _ =>
      "#,[]\x7b\x7d&*!|>'\"%@`".contains c || ((c == '?' || c == ':' || c == '-') && alone)

/-- What a text holds. -/
def traits (s : List Char) : Traits where
  marks := startsMark s ||
    anyNeighbours (fun a b => a == ':' && isWordEnd b) s ||
    (s.length ≠ 1 && s.getLast? = some ':') ||
    anyNeighbours (fun a b => isWordEnd a && b == '#') s
  breaks := s.any isTextBreak
  escapes := s.any (!isPlainAscii ·) || anyNeighbours (fun a b => a == ' ' && isTextBreak b) s
  loose := [s.head?, s.getLast?].any fun c => c.any fun c => c == ' ' || isTextBreak c
  indented := anyNeighbours (fun a b => isTextBreak a && b == ' ') s

/-- The style of a scalar. `plainKind` tells whether its characters alone show what it is; a key
stands in one line. -/
def Style.choose (block plainKind key : Bool) (s : List Char) : Style :=
  if s.isEmpty then
    if !block && plainKind && !key then .plain else if block then .double else .single
  else
    let t := traits s
    let oneLine := !t.escapes && !t.indented
    if !block && plainKind && !t.breaks && oneLine && !t.loose && !t.marks then .plain
    else if block && !key && !t.escapes && s.getLast? ≠ some ' ' then .block
    else if !block && oneLine && !(key && t.breaks) then .single
    else .double

/-! ## Scalars -/

/-- A scalar as it stands in a text: its tag, its characters, whether those show the tag when
plain, and whether the tag goes without saying for any text. -/
structure Scalar where
  tag : String
  content : Text
  plainKind : Bool
  isText : Bool
  block : Bool
  deriving DecidableEq, Repr

/-- The characters of a scalar. A half is replaced by a character that has to be escaped too. -/
def Scalar.text (s : Scalar) : List Char := s.content.chars

/-- A number with a point, always with a point before its exponent. -/
def floatText (x : Binary64) : List Char :=
  if x.isNaN then ['.', 'n', 'a', 'n']
  else if x.isInfinite then
    (if x.negative then ['-'] else []) ++ ['.', 'i', 'n', 'f']
  else
    let text := x.text.toList
    if text.contains '.' then text
    else text.takeWhile (· ≠ 'e') ++
      (if text.contains 'e' then '.' :: '0' :: text.dropWhile (· ≠ 'e') else [])

/-- A value that is written as a scalar. -/
def Scalar.of? : Value → Option Scalar
  | .null => some ⟨"!!null", "null", true, false, false⟩
  | .bool b => some (plain "!!bool" .bool (if b then "true" else "false").toList)
  | .int n => some (plain "!!int" .int (intDigits n))
  | .float x => some (plain "!!float" .float (floatText x))
  | .str s => some ⟨"!!str", s, Kind.ofPlain s = .str, true, false⟩
  | .bytes bs => some ⟨"!!binary", .ofChars (base64Lines bs), false, false, true⟩
  | .date d => some (plain "!!timestamp" .timestamp d.text.toList)
  | .dateTime t => some (plain "!!timestamp" .timestamp t.text.toList)
  | _ => none
where
  plain (tag : String) (kind : Kind) (text : List Char) : Scalar :=
    ⟨tag, .ofChars text, Kind.ofLine text = kind, false, false⟩

/-- The scalar for nothing. -/
def Scalar.nothing : Scalar := ⟨"!!null", "null", true, false, false⟩

/-- The runs of a text: its blanks, its ends of lines, and the stretches between them. -/
def runs : List Char → List (List Char)
  | [] => []
  | c :: rest =>
    let kind (c : Char) : Nat := if c == ' ' then 0 else if isTextBreak c then 1 else 2
    match runs rest with
    | (d :: run) :: more =>
      if kind c = kind d then (c :: d :: run) :: more else [c] :: (d :: run) :: more
    | _ => [[c]]

/-- Writes a plain text. -/
def putPlain (p : Page) (indent : Nat) (split : Bool) (s : List Char) : Page :=
  if s.isEmpty then p
  else
    let p := if p.blank then p else p.put [' ']
    (runs s).foldl (fun p run =>
      if run = [' '] && Page.width < p.column && split then
        { p.indentTo indent with blank := false, fresh := false }
      else p.put run) { p with blank := false, fresh := false }

/-- Writes ends of lines within a text between single quotes, with one more in front. -/
def putBreaks (p : Page) (indent : Nat) (run : List Char) : Page :=
  (run.foldl (fun p _ => p.endLine) p.endLine).indentTo indent

/-- A character between single quotes. -/
def singleChar (c : Char) : List Char := if c = '\'' then ['\'', '\''] else [c]

/-- Writes runs of a text between single quotes. Blanks at either end of the text are kept. -/
def putSingleRuns (indent : Nat) (split first : Bool) (p : Page) : List (List Char) → Page
  | [] => p
  | run :: rest =>
    let p :=
      if run.any isTextBreak then putBreaks p indent run
      else if run = [' '] && Page.width < p.column && split && !first && !rest.isEmpty then
        p.indentTo indent
      else p.put (run.flatMap singleChar)
    putSingleRuns indent split false p rest

/-- Writes a text between single quotes. -/
def putSingle (p : Page) (indent : Nat) (split : Bool) (s : List Char) : Page :=
  let p := putSingleRuns indent split true (p.mark "'" true false false) (runs s)
  p.mark "'" false false false

/-- The letter that stands for a character behind a backslash. -/
def escapeLetter? : Char → Option Char
  | '\x00' => some '0'
  | '\x07' => some 'a'
  | '\x08' => some 'b'
  | '\t' => some 't'
  | '\n' => some 'n'
  | '\x0b' => some 'v'
  | '\x0c' => some 'f'
  | '\r' => some 'r'
  | '\x1b' => some 'e'
  | '"' => some '"'
  | '\\' => some '\\'
  | '\x85' => some 'N'
  | '\xa0' => some '_'
  | '\u2028' => some 'L'
  | '\u2029' => some 'P'
  | _ => none

/-- The escape of a code point, if it is not written as it is. -/
def escape? (p : CodePoint) : Option (List Char) :=
  match p.char?.bind escapeLetter? with
  | some letter => some ['\\', letter]
  | none =>
    let n := p.code
    if 32 ≤ n && n ≤ 126 then none
    else if n ≤ 0xFF then some ('\\' :: 'x' :: hexCapitals 2 n)
    else if n ≤ 0xFFFF then some ('\\' :: 'u' :: hexCapitals 4 n)
    else some ('\\' :: 'U' :: hexCapitals 8 n)

/-- A page folded within a text between double quotes: a backslash ends the line, and another one
starts the next if a blank follows. -/
def foldDouble (p : Page) (indent : Nat) (next : Option CodePoint) : Page :=
  let p := { (p.put ['\\']).indentTo indent with blank := false, fresh := false }
  if next = some (.char ' ') then p.put ['\\'] else p

/-- Writes a text between double quotes from its character number `pos` on. `held` are the
characters in front of it that are not on the page yet, in reverse. A line may be folded in front
of a blank, behind an escape, and behind what was folded or escaped just before. -/
def putDoubleFrom (indent : Nat) (split : Bool) (size : Nat) :
    Nat → Page → List Char → List CodePoint → Page
  | _, p, held, [] => p.put held.reverse
  | pos, p, held, c :: rest =>
    let inner := split && 0 < pos && pos + 1 < size
    match escape? c with
    | some escape =>
      let p := (p.put held.reverse).put escape
      let p :=
        if inner && Page.width + 1 < p.column then foldDouble p indent rest.head? else p
      putDoubleFrom indent split size (pos + 1) p [] rest
    | none =>
      if inner && (c = .char ' ' || held.isEmpty) && Page.width < p.column + held.length then
        let p := foldDouble (p.put held.reverse) indent (some c)
        putDoubleFrom indent split size (pos + 1) p [c.toChar] rest
      else putDoubleFrom indent split size (pos + 1) p (c.toChar :: held) rest

/-- Writes a text between double quotes. -/
def putDouble (p : Page) (indent : Nat) (split : Bool) (t : Text) : Page :=
  let p := p.mark "\"" true false false
  (putDoubleFrom indent split t.points.length 0 p [] t.points).mark "\"" false false false

/-- The marks behind a block's own: how deep it is if its text starts with a blank or an end of
line, and what becomes of the ends of lines behind it. -/
def blockHints (s : List Char) : String :=
  (if s.head?.any fun c => c == ' ' || isTextBreak c then "2" else "") ++
    match s.reverse with
    | [] => ""
    | last :: before =>
      if !isTextBreak last then "-"
      else if before.head?.all isTextBreak then "+"
      else ""

/-- Writes a text as a block of lines. -/
def putBlock (p : Page) (indent : Nat) (s : List Char) : Page :=
  let p := (p.mark ("|" ++ blockHints s) true false false).endLine
  let p := (runs s).foldl (fun p run =>
    if run.any isTextBreak then run.foldl (fun p _ => p.endLine) p
    else if p.column = 0 then (p.indentTo indent).put run
    else p.put run) p
  if p.column = 0 then p else p.endLine

/-- Writes a scalar. A key is not folded. -/
def putScalar (p : Page) (indent : Nat) (key : Bool) (s : Scalar) : Page :=
  let style := Style.choose s.block s.plainKind key s.text
  let silent := if style = .plain then s.plainKind else s.isText
  let p := if silent then p else p.mark s.tag true false false
  match style with
  | .plain => putPlain p indent (!key) s.text
  | .single => putSingle p indent (!key) s.text
  | .double => putDouble p indent (!key) s.content
  | .block => putBlock p indent s.text

/-- The size from which on a key has a mark of its own, with that of its tag. -/
def simpleKeyLimit : Nat := 128

/-- Whether a key goes without a mark of its own. -/
def Scalar.isSimpleKey (s : Scalar) : Bool :=
  s.tag.length + s.text.length < simpleKeyLimit && !s.text.isEmpty && !s.text.any isTextBreak

/-! ## Collections -/

/-- Writes a key of a mapping at an indentation, with the mark of its value. A key that has a mark
of its own is written by `putLong`. -/
def putKey (indent : Nat) (p : Page) (k : Value) (putLong : Page → Page) : Page :=
  let p := p.indentTo indent
  match (Scalar.of? k).filter Scalar.isSimpleKey with
  | some s => (putScalar p (indent + 2) true s).mark ":" false false false
  | none => ((putLong (p.mark "?" true false true)).indentTo indent).mark ":" true false true

mutual

/-- Writes a value inside a collection at an indentation. Directly behind a key, a sequence is not
indented. -/
def putValue (indent : Nat) (inMapping : Bool) (p : Page) : Value → Page
  | .list [] => p.mark "[" true true false |>.mark "]" false false false
  | .list items =>
    let indent := if inMapping && !p.fresh then indent else indent + 2
    putItems indent p items
  | .tuple [] => p.mark "!!python/tuple" true false false |>.mark "[" true true false
      |>.mark "]" false false false
  | .tuple items =>
    let p := p.mark "!!python/tuple" true false false
    let indent := if inMapping && !p.fresh then indent else indent + 2
    putItems indent p items
  | .set [] => p.mark "!!set" true false false |>.mark "\x7b" true true false
      |>.mark "\x7d" false false false
  | .set items => putMembers (indent + 2) (p.mark "!!set" true false false) items
  | .dict [] => p.mark "\x7b" true true false |>.mark "\x7d" false false false
  | .dict pairs => putPairs (indent + 2) p pairs
  | v => match Scalar.of? v with
    | some s => putScalar p (indent + 2) false s
    | none => p

/-- Writes the items of a sequence at an indentation. -/
def putItems (indent : Nat) (p : Page) : List Value → Page
  | [] => p
  | v :: rest =>
    let p := (p.indentTo indent).mark "-" true false true
    putItems indent (putValue indent false p v) rest

/-- Writes the pairs of a mapping at an indentation. -/
def putPairs (indent : Nat) (p : Page) : List (Value × Value) → Page
  | [] => p
  | (k, v) :: rest =>
    let p := putKey indent p k fun p => putValue indent true p k
    putPairs indent (putValue indent true p v) rest

/-- Writes the members of a set at an indentation, as keys without values. -/
def putMembers (indent : Nat) (p : Page) : List Value → Page
  | [] => p
  | k :: rest =>
    let p := putKey indent p k fun p => putValue indent true p k
    putMembers indent (putScalar p (indent + 2) false Scalar.nothing) rest

end

/-- The text of a mapping that is a whole document. -/
def write (pairs : List (Value × Value)) : String :=
  let p := if pairs.isEmpty then
      Page.empty.mark "\x7b" true true false |>.mark "\x7d" false false false
    else putPairs 0 .empty pairs
  String.ofList (p.indentTo 0).written.reverse

end TabAudit.Yaml
