import TabAudit.Glob.Token
import TabAudit.Regex.Text
/-!
# From a glob to a pattern

The tokens of a glob become the parts of a pattern's text. A separator behind `**` is optional, as
the `**` may already have taken it, and a `**` directly behind another adds nothing. Leading and
trailing separators are dropped. The text is then read back as a pattern, so what is shown is what
is matched.
-/

namespace TabAudit

namespace Glob

/-- A part of a pattern's text. -/
inductive Part where
  /-- A character as it is. -/
  | plain (c : Char)
  /-- A character behind a backslash. -/
  | quoted (c : Char)
  | anyChar
  | anyRun
  | anyPath
  | optionalSlash
  deriving DecidableEq, Repr

/-- How a part is written. -/
def Part.text : Part → List Char
  | .plain c => [c]
  | .quoted c => ['\\', c]
  | .anyChar => ['[', '^', '/', ']']
  | .anyRun => ['[', '^', '/', ']', '*']
  | .anyPath => ['.', '*']
  | .optionalSlash => ['/', '?']

/-- What a part stands for. -/
def Part.piece : Part → Piece
  | .plain c => ⟨.exactly c, .one⟩
  | .quoted c => ⟨.exactly c, .one⟩
  | .anyChar => ⟨.notSlash, .one⟩
  | .anyRun => ⟨.notSlash, .many⟩
  | .anyPath => ⟨.any, .many⟩
  | .optionalSlash => ⟨.exactly '/', .optional⟩

/-- Characters that mean nothing in a glob and something in a pattern. -/
def reserved : List Char :=
  ['(', ')', '[', ']', '\x7b', '\x7d', '.', '-', '+', '|', '^', '$', '=', '!', '<']

/-- Characters that keep the backslash they have in a glob. -/
def keepsBackslash : List Char :=
  reserved ++ ['?', '*', '\\', '&', '~', '#', ' ', '\t', '\n', '\r', '\x0b', '\x0c']

/-- The parts of a glob's tokens. `seen` tells whether a separator stood before, other than
directly behind a `**`; `covered` tells whether a `**` and its separator stand directly before. -/
def parts (seen covered : Bool) : List Token → List Part
  | [] => []
  | .anyPath :: .separator :: rest =>
    (if covered then [] else [.anyPath]) ++ (if seen then [.optionalSlash] else []) ++
      parts seen true rest
  | .anyPath :: rest => (if covered then [] else [.anyPath]) ++ parts seen true rest
  | .separator :: rest => .plain '/' :: parts true false rest
  | .anyRun :: rest => .anyRun :: parts seen false rest
  | .anyChar :: rest => .anyChar :: parts seen false rest
  | .ordinary c :: rest =>
    (if reserved.contains c then .quoted c else .plain c) :: parts seen false rest
  | .escaped c :: rest =>
    (if keepsBackslash.contains c then .quoted c else .plain c) :: parts seen false rest
  | .loneEscape :: rest => parts seen false rest

/-- Tokens without the separators in front. -/
def dropLeading : List Token → List Token
  | .separator :: rest => rest
  | rest => rest

/-- Parts without the separators at the end. -/
def dropTrailing (ps : List Part) : List Part :=
  (ps.reverse.dropWhile (· = .plain '/')).reverse

/-- The parts of a pattern's text for a glob. -/
def translate (ts : List Token) : List Part :=
  dropTrailing (parts false false (dropLeading ts))

/-- The text of a pattern. -/
def write (ps : List Part) : List Char :=
  ps.flatMap Part.text

end Glob

/-- A glob that cannot be used, and why. -/
structure GlobError where
  glob : String
  fault : Glob.Fault
  deriving DecidableEq, Repr

/-- The wording of a glob error. -/
def GlobError.message (e : GlobError) : String :=
  s!"invalid glob: '{e.glob}': {e.fault.reason}"

/-- A glob ready for matching. -/
structure Pattern where
  glob : String
  text : String
  regex : Regex
  deriving DecidableEq, Repr

/-- What came of a glob that was tried. -/
structure GlobResult where
  glob : String
  outcome : Except GlobError Pattern
  deriving Repr

namespace GlobResult

def pattern? (r : GlobResult) : Option Pattern := r.outcome.toOption

def error? (r : GlobResult) : Option GlobError :=
  match r.outcome with
  | .error e => some e
  | .ok _ => none

/-- Whether there is no error. -/
def ok (r : GlobResult) : Bool := r.error?.isNone

end GlobResult

namespace Pattern

/-- The pattern of a glob. -/
def compile (glob : String) : Except GlobError Pattern :=
  let ts := Glob.tokens glob.toList
  match Glob.firstFault true ts with
  | some fault => .error ⟨glob, fault⟩
  | none =>
    let text := Glob.write (Glob.translate ts)
    match Regex.read text with
    | some regex => .ok ⟨glob, String.ofList text, regex⟩
    | none => .error ⟨glob, .unreadable⟩

/-- Tries a glob out: an error is a part of the result. -/
def tryCompile (glob : String) : GlobResult := ⟨glob, compile glob⟩

/-- Whether a pattern takes a whole path. -/
def accepts (p : Pattern) (path : String) : Bool :=
  p.regex.accepts path.toList

end Pattern

end TabAudit
