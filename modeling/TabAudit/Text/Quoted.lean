import TabAudit.Text.Basic
import TabAudit.Text.Hex
import TabAudit.Text.Printable
/-!
# Quoted texts

Messages show texts between quotes, with a backslash form for everything that would not show. The
quotes are single unless the text holds a single quote and no double one.
-/

namespace TabAudit

/-- The quote that a text is put between. -/
def quoteFor (s : List Char) : Char :=
  if s.contains '\'' && !s.contains '"' then '"' else '\''

/-- The backslash form of a code point that does not show. -/
def hiddenText (n : Nat) : List Char :=
  if n < 0x100 then '\\' :: 'x' :: hexDigits 2 n
  else if n < 0x10000 then '\\' :: 'u' :: hexDigits 4 n
  else '\\' :: 'U' :: hexDigits 8 n

/-- A character between quotes. -/
def quotedChar (quote c : Char) : List Char :=
  if c = quote || c = '\\' then ['\\', c]
  else if c = '\t' then ['\\', 't']
  else if c = '\n' then ['\\', 'n']
  else if c = '\r' then ['\\', 'r']
  else if isPrintable c then [c]
  else hiddenText c.toNat

/-- A code point between quotes. -/
def quotedPoint (quote : Char) : CodePoint → List Char
  | .char c => quotedChar quote c
  | .half n => hiddenText (CodePoint.half n).code

/-- A text between quotes. -/
def quoted (t : Text) : String :=
  let quote := quoteFor t.chars
  String.ofList (quote :: t.points.flatMap (quotedPoint quote) ++ [quote])

/-- A text as the console shows it: its characters are themselves, and halves are escapes. -/
def Text.shown (t : Text) : String :=
  String.ofList (t.points.flatMap fun p => match p with
    | .char c => [c]
    | .half n => hiddenText (CodePoint.half n).code)

/-- Bytes between quotes; those outside ASCII do not show. -/
def quotedBytes (bs : List UInt8) : String :=
  let text := bs.map fun b => Char.ofNat b.toNat
  let quote := quoteFor text
  let body := text.flatMap fun c => if 127 ≤ c.toNat then hiddenText c.toNat else quotedChar quote c
  String.ofList ('b' :: quote :: body ++ [quote])

end TabAudit
