import TabAudit.Yaml.Scalar
import TabAudit.Yaml.Token
/-!
# From a YAML text to its tokens

Indentation opens and closes collections. A scalar or a collection may turn out to be a key only
when the colon behind it is met; its token of a key is then put in front of it. A key that needs no
mark of its own stands in one line and has at most 1024 characters. Tokens are handed over up to
the first fault, which ends them; those behind the start of a possible key are held back until it
is known whether it is one.
-/

namespace TabAudit.Yaml

/-- A place where a key may have begun: the number of tokens in front of it, whether nothing but a
key may stand there, and where it is. -/
structure MaybeKey where
  number : Nat
  required : Bool
  index : Nat
  line : Nat
  column : Nat
  deriving Repr

/-- The reading of tokens under way. The tokens are there in reverse; `indents` holds the columns
of the collections that are open, the innermost first; `keys` holds the possible keys for each
depth of brackets. -/
structure Layout where
  cursor : Cursor
  tokens : List Token
  count : Nat
  indents : List Nat
  depth : Nat
  keyAllowed : Bool
  keys : List (Nat × MaybeKey)
  deriving Repr

/-- The number of characters that a key without a mark may have. -/
def keyLimit : Nat := 1024

namespace Layout

/-- The start of a text. -/
def start (s : List Char) : Layout := ⟨.start s, [], 0, [], 0, true, []⟩

/-- One more token. -/
def push (l : Layout) (t : Token) : Layout :=
  { l with tokens := t :: l.tokens, count := l.count + 1 }

/-- One more token, in front of which so many stand. -/
def insert (l : Layout) (number : Nat) (t : Token) : Layout :=
  { l with
    tokens := l.tokens.take (l.count - number) ++ t :: l.tokens.drop (l.count - number)
    count := l.count + 1 }

/-- Whether a collection with brackets is open. -/
def inFlow (l : Layout) : Bool := l.depth ≠ 0

/-- Moves on by so many characters. -/
def advance (l : Layout) (n : Nat) : Layout := { l with cursor := l.cursor.skip n }

/-- The column below which the innermost open collection ends, plus one. -/
def floor (l : Layout) : Nat :=
  match l.indents with
  | [] => 0
  | column :: _ => column + 1

/-! ## Open collections -/

/-- Closes collections that are deeper than a column. -/
def closeTo (column : Nat) (l : Layout) : List Nat → Layout
  | [] => { l with indents := [] }
  | indent :: rest =>
    if column < indent then closeTo column (l.push .blockEnd) rest
    else { l with indents := indent :: rest }

/-- Closes collections that are deeper than a column, unless a bracket is open. -/
def unwind (l : Layout) (column : Nat) : Layout :=
  if l.inFlow then l else closeTo column l l.indents

/-- Closes all collections, unless a bracket is open. -/
def unwindAll (l : Layout) : Layout :=
  if l.inFlow then l
  else l.indents.foldl (fun l _ => l.push .blockEnd) { l with indents := [] }

/-- Whether a collection may be opened at a column, and the state with it open. -/
def indentTo (l : Layout) (column : Nat) : Option Layout :=
  if l.floor ≤ column then some { l with indents := column :: l.indents } else none

/-! ## Possible keys -/

/-- Whether a possible key has become too long or ends on another line. -/
def isStale (l : Layout) (k : MaybeKey) : Bool :=
  k.line ≠ l.cursor.line || keyLimit < l.cursor.index - k.index

/-- Forgets the possible keys that have become too long or end on another line. -/
def dropStale (l : Layout) : Except Fault Layout :=
  if l.keys.any fun (_, k) => l.isStale k && k.required then .error .malformed
  else .ok { l with keys := l.keys.filter fun (_, k) => !l.isStale k }

/-- Forgets the possible key at the present depth of brackets. -/
def dropKey (l : Layout) : Except Fault Layout :=
  match l.keys.lookup l.depth with
  | some k =>
    if k.required then .error .malformed
    else .ok { l with keys := l.keys.filter (·.1 ≠ l.depth) }
  | none => .ok l

/-- Notes that a key may begin here. -/
def noteKey (l : Layout) : Except Fault Layout :=
  if l.keyAllowed then
    match l.dropKey with
    | .error e => .error e
    | .ok l =>
      let required := !l.inFlow && l.floor = l.cursor.column + 1
      .ok { l with
        keys := (l.depth, ⟨l.count, required, l.cursor.index, l.cursor.line, l.cursor.column⟩) ::
          l.keys }
  else .ok l

/-! ## Words -/

def isNameChar (c : Char) : Bool := c.isAlphanum || c == '-' || c == '_'

/-- The characters of a tag. -/
def isTagChar (c : Char) : Bool := isNameChar c || ";/?:@&=+$,.!~*'()[]".contains c

/-- The bytes of escapes with a percent sign, and the place behind them. -/
def readBytes : Nat → Cursor → Except Fault (List UInt8 × Cursor)
  | 0, _ => .error .malformed
  | fuel + 1, c =>
    if c.peek == '%' then
      match hexValue? (c.peekAt 1), hexValue? (c.peekAt 2) with
      | some a, some b =>
        (readBytes fuel (c.skip 3)).map fun (more, c) => ((a * 16 + b).toUInt8 :: more, c)
      | _, _ => .error .malformed
    else .ok ([], c)

/-- The text of a tag without its handle. -/
def readTagRest : Nat → Cursor → Except Fault (List Char × Cursor)
  | 0, _ => .error .malformed
  | fuel + 1, c =>
    if c.peek == '%' then
      match readBytes c.fuel c with
      | .error e => .error e
      | .ok (bytes, c) =>
        match String.fromUTF8? ⟨bytes.toArray⟩ with
        | none => .error .malformed
        | some text => (readTagRest fuel c).map fun (more, c) => (text.toList ++ more, c)
    else
      match c.span isTagChar with
      | ([], c) => .ok ([], c)
      | (text, c) => (readTagRest fuel c).map fun (more, c) => (text ++ more, c)

/-- The text of a tag without its handle, which may not be empty. -/
def readSuffix (c : Cursor) : Except Fault (String × Cursor) :=
  match readTagRest c.fuel c with
  | .error e => .error e
  | .ok ([], _) => .error .malformed
  | .ok (text, c) => .ok (String.ofList text, c)

/-- The handle of a tag: an exclamation mark, or a name between two. -/
def readHandle (c : Cursor) : Except Fault (String × Cursor) :=
  if c.peek != '!' then .error .malformed
  else if c.peekAt 1 == ' ' then .ok ("!", c.next)
  else
    let (name, after) := c.next.span isNameChar
    if after.peek != '!' then .error .malformed
    else .ok (String.ofList ('!' :: name ++ ['!']), after.next)

/-- A tag, from its exclamation mark on. -/
def readTag (c : Cursor) : Except Fault (TagText × Cursor) := do
  let (tag, c) : TagText × Cursor ←
    if c.peekAt 1 == '<' then do
      let (suffix, c) ← readSuffix (c.skip 2)
      if c.peek != '>' then .error .malformed
      else pure (⟨none, suffix⟩, c.next)
    else if isWordEnd (c.peekAt 1) then pure (⟨none, "!"⟩, c.next)
    else
      let word := c.next.rest.takeWhile fun ch => !(ch == ' ' || isLineEnd ch)
      if word.contains '!' then do
        let (handle, c) ← readHandle c
        let (suffix, c) ← readSuffix c
        pure (⟨some handle, suffix⟩, c)
      else do
        let (suffix, c) ← readSuffix c.next
        pure (⟨some "!", suffix⟩, c)
  if c.peek == ' ' || isLineEnd c.peek then .ok (tag, c) else .error .malformed

/-- The name behind an anchor's or an alias's mark. -/
def readName (c : Cursor) : Except Fault (String × Cursor) :=
  match c.span isNameChar with
  | ([], _) => .error .malformed
  | (name, c) =>
    if isWordEnd c.peek || "?:,]\x7d%@`".contains c.peek then .ok (String.ofList name, c)
    else .error .malformed

/-- A number of a version. -/
def readVersionPart (c : Cursor) : Except Fault (Nat × Cursor) :=
  match c.span Char.isDigit with
  | ([], _) => .error .malformed
  | (digits, c) =>
    if numeralLimit < digits.length then .error (.integer (.tooLong digits.length))
    else .ok (ofDecimalDigits digits, c)

/-- A directive, from behind its percent sign. -/
def readDirective (c : Cursor) : Except Fault (Token × Cursor) := do
  let (name, c) := c.span isNameChar
  if name.isEmpty || !(c.peek == ' ' || isLineEnd c.peek) then .error .malformed
  else
    let (token, c) : Token × Cursor ←
      if name = ['Y', 'A', 'M', 'L'] then do
        let (major, c) ← readVersionPart c.skipSpaces
        if c.peek != '.' then .error .malformed
        else
          let (_, c) ← readVersionPart c.next
          if c.peek == ' ' || isLineEnd c.peek then pure (.version major, c)
          else .error .malformed
      else if name = ['T', 'A', 'G'] then do
        let (handle, c) ← readHandle c.skipSpaces
        if c.peek != ' ' then .error .malformed
        else
          let (stem, c) ← readSuffix c.skipSpaces
          if c.peek == ' ' || isLineEnd c.peek then pure (.handle handle stem, c)
          else .error .malformed
      else pure (.directive, c.skipLine)
    (c.skipComment).map fun c => (token, c)

/-! ## Tokens -/

/-- Skips blanks, comments and ends of lines. Outside of brackets a key may begin a line. -/
def skipToToken : Nat → Layout → Layout
  | 0, l => l
  | fuel + 1, l =>
    let c := l.cursor.skipSpaces
    let c := if c.peek == '#' then c.skipLine else c
    match c.takeBreak with
    | some (_, c) =>
      skipToToken fuel { l with cursor := c, keyAllowed := l.keyAllowed || !l.inFlow }
    | none => { l with cursor := c }

/-- A mark between documents, or one behind a document. -/
def takeMarker (l : Layout) (t : Token) : Except Fault Layout := do
  let l ← l.unwindAll.dropKey
  .ok ({ l with keyAllowed := false }.advance 3 |>.push t)

/-- The opening bracket of a collection. -/
def openFlow (l : Layout) (t : Token) : Except Fault Layout := do
  let l ← l.noteKey
  .ok ({ l with depth := l.depth + 1, keyAllowed := true }.advance 1 |>.push t)

/-- The closing bracket of a collection. -/
def closeFlow (l : Layout) (t : Token) : Except Fault Layout := do
  let l ← l.dropKey
  .ok ({ l with depth := l.depth - 1, keyAllowed := false }.advance 1 |>.push t)

/-- The dash of an item. -/
def takeEntry (l : Layout) : Except Fault Layout := do
  if !l.inFlow && !l.keyAllowed then .error .malformed
  else
    let l :=
      if l.inFlow then l
      else match l.indentTo l.cursor.column with
        | some l => l.push .blockSequenceStart
        | none => l
    let l ← { l with keyAllowed := true }.dropKey
    .ok (l.advance 1 |>.push .blockEntry)

/-- The question mark of a key. -/
def takeKey (l : Layout) : Except Fault Layout := do
  if !l.inFlow && !l.keyAllowed then .error .malformed
  else
    let l :=
      if l.inFlow then l
      else match l.indentTo l.cursor.column with
        | some l => l.push .blockMappingStart
        | none => l
    let l ← { l with keyAllowed := !l.inFlow }.dropKey
    .ok (l.advance 1 |>.push .key)

/-- The colon of a value. -/
def takeValue (l : Layout) : Except Fault Layout := do
  match l.keys.lookup l.depth with
  | some k =>
    let l := { l with keys := l.keys.filter (·.1 ≠ l.depth), keyAllowed := false }
    let l := l.insert k.number .key
    let l :=
      if l.inFlow then l
      else match l.indentTo k.column with
        | some l => l.insert k.number .blockMappingStart
        | none => l
    .ok (l.advance 1 |>.push .value)
  | none =>
    if !l.inFlow && !l.keyAllowed then .error .malformed
    else
      let l :=
        if l.inFlow then l
        else match l.indentTo l.cursor.column with
          | some l => l.push .blockMappingStart
          | none => l
      let l ← { l with keyAllowed := !l.inFlow }.dropKey
      .ok (l.advance 1 |>.push .value)

/-- A word or a text that may begin a key. -/
def takeWord (l : Layout) (read : Cursor → Except Fault (Token × Cursor)) :
    Except Fault Layout := do
  let l ← l.noteKey
  let (t, c) ← read l.cursor
  .ok ({ l with cursor := c, keyAllowed := false }.push t)

/-- A block. -/
def takeBlock (l : Layout) (folded : Bool) : Except Fault Layout := do
  let l ← { l with keyAllowed := true }.dropKey
  let (text, c) ← l.cursor.readBlock folded (max 1 l.floor)
  .ok ({ l with cursor := c }.push (.scalar (.ofChars text) false))

/-- A plain scalar. -/
def takePlain (l : Layout) : Except Fault Layout := do
  let l ← l.noteKey
  let (text, c, fresh) := l.cursor.readPlain l.inFlow l.floor l.cursor.fuel [] false
  .ok ({ l with cursor := c, keyAllowed := fresh }.push (.scalar (.ofChars text) true))

/-- Whether a plain scalar may begin at the cursor. -/
def plainMayStart (l : Layout) : Bool :=
  let ch := l.cursor.peek
  if "-?:,[]\x7b\x7d#&*!|>'\"%@`".contains ch then
    !isWordEnd (l.cursor.peekAt 1) && (ch == '-' || (!l.inFlow && (ch == '?' || ch == ':')))
  else !isWordEnd ch

/-- Takes the next token, and those that come with it. -/
def step (l : Layout) : Except Fault Layout := do
  let l ← (skipToToken l.cursor.fuel l).dropStale
  let l := l.unwind l.cursor.column
  let c := l.cursor
  let ch := c.peek
  let endsMark := isWordEnd (c.peekAt 1)
  if c.atEnd then
    let l ← l.unwindAll.dropKey
    .ok (l.push .streamEnd)
  else if ch == '%' && c.column = 0 then
    let l ← l.unwindAll.dropKey
    let (t, c) ← readDirective l.cursor.next
    .ok ({ l with cursor := c, keyAllowed := false }.push t)
  else if c.column = 0 && c.atTriple '-' then l.takeMarker .documentStart
  else if c.column = 0 && c.atTriple '.' then l.takeMarker .documentEnd
  else if ch == '[' then l.openFlow .flowSequenceStart
  else if ch == '\x7b' then l.openFlow .flowMappingStart
  else if ch == ']' then l.closeFlow .flowSequenceEnd
  else if ch == '\x7d' then l.closeFlow .flowMappingEnd
  else if ch == ',' then do
    let l ← { l with keyAllowed := true }.dropKey
    .ok (l.advance 1 |>.push .flowEntry)
  else if ch == '-' && endsMark then l.takeEntry
  else if ch == '?' && (l.inFlow || endsMark) then l.takeKey
  else if ch == ':' && (l.inFlow || endsMark) then l.takeValue
  else if ch == '*' then
    l.takeWord fun c => (readName c.next).map fun (name, c) => (.alias name, c)
  else if ch == '&' then
    l.takeWord fun c => (readName c.next).map fun (name, c) => (.anchor name, c)
  else if ch == '!' then
    l.takeWord fun c => (readTag c).map fun (tag, c) => (.tag tag, c)
  else if ch == '|' && !l.inFlow then l.takeBlock false
  else if ch == '>' && !l.inFlow then l.takeBlock true
  else if ch == '\'' then
    l.takeWord fun c => (c.next.readSingle c.fuel).map fun (text, c) =>
      (.scalar (.ofChars text) false, c)
  else if ch == '"' then
    l.takeWord fun c => (c.next.readDouble c.fuel).map fun (text, c) => (.scalar text false, c)
  else if l.plainMayStart then l.takePlain
  else .error .malformed

/-- The number of settled tokens. The token of a key may still come in front of the others. -/
def settled (l : Layout) : Nat :=
  l.keys.foldl (fun n (_, k) => if l.isStale k then n else min n k.number) l.count

/-- Takes tokens up to the end of the text or the first fault. The result holds them in reverse. -/
def run : Nat → Layout → List Token × Option Fault
  | 0, l => (l.tokens, some .malformed)
  | fuel + 1, l =>
    match l.step with
    | .error e => (l.tokens.drop (l.count - l.settled), some e)
    | .ok l => if l.tokens.head? = some .streamEnd then (l.tokens, none) else run fuel l

end Layout

/-- Whether a text may hold a character. -/
def isAllowed (c : Char) : Bool :=
  let n := c.toNat
  n == 9 || n == 10 || n == 13 || (32 ≤ n && n ≤ 126) || n == 0x85 || (0xA0 ≤ n && n ≤ 0xD7FF) ||
    (0xE000 ≤ n && n ≤ 0xFFFD) || 0x10000 ≤ n

/-- The tokens of a text, and the fault that ends them if there is one. -/
def tokens (s : List Char) : List Token × Option Fault :=
  if s.all isAllowed then
    let start := Layout.start s
    let start := if s.head? = some '\uFEFF' then start.advance 1 else start
    let (ts, fault) := start.run (s.length + 2)
    (ts.reverse, fault)
  else ([], some .malformed)

end TabAudit.Yaml
