import TabAudit.Console.Emoji
import TabAudit.Text.Names
/-!
# Markup

Text for the console may hold tags in brackets, which say how it looks. A backslash in front of a
tag takes its meaning away. Data is escaped before it is put into such text, so that brackets in it
stay what they are; what the page shows is the text without its tags.
-/

namespace TabAudit.Console.Markup

/-- Whether a character may stand behind the bracket that opens a tag. -/
def opensTag (c : Char) : Bool :=
  ('a' ≤ c && c ≤ 'z') || c == '#' || c == '/' || c == '@'

/-- The size of a tag behind its opening bracket, without the closing one. -/
def tagSize? : List Char → Option Nat
  | [] => none
  | c :: rest =>
    let inner := rest.takeWhile fun c => c ≠ '[' && c ≠ ']'
    if opensTag c && (rest.drop inner.length).head? = some ']' then some (inner.length + 1)
    else none

/-- Backslashes in a row. -/
def backslashes (n : Nat) : List Char := List.replicate n '\\'

/-! ## Escaping -/

/-- Escapes the tags in a text behind so many backslashes. Those in front of a tag are doubled,
and one more is put there. -/
def escapeTags (run : Nat) (s : List Char) : List Char :=
  match s with
  | [] => backslashes run
  | '\\' :: rest => escapeTags (run + 1) rest
  | '[' :: rest =>
    match tagSize? rest with
    | some size =>
      backslashes (2 * run + 1) ++ '[' :: rest.take size ++ escapeTags 0 (rest.drop size)
    | none => backslashes run ++ '[' :: escapeTags 0 rest
  | c :: rest => backslashes run ++ c :: escapeTags 0 rest
termination_by s.length

/-- Doubles a single backslash at the end of a text. -/
def doubleLast (s : List Char) : List Char :=
  match s.reverse with
  | '\\' :: '\\' :: _ => s
  | '\\' :: _ => s ++ ['\\']
  | _ => s

/-- A text with its tags escaped. -/
def escape (s : List Char) : List Char := doubleLast (escapeTags 0 s)

/-! ## Showing -/

/-- A text in front of a tag, without the backslashes in front of brackets that open none. -/
def plainText : List Char → List Char
  | '\\' :: '[' :: rest => '[' :: plainText rest
  | c :: rest => c :: plainText rest
  | [] => []

/-- The stretches of a text that are shown. `plain` are the characters before it that belong to
the stretch under way, in reverse, and behind them are so many backslashes. -/
def stretches (plain : List Char) (run : Nat) (s : List Char) : List (List Char) :=
  match s with
  | [] => [plain.reverse ++ backslashes run]
  | '\\' :: rest => stretches plain (run + 1) rest
  | '[' :: rest =>
    match tagSize? rest with
    | some size =>
      let tag := if run % 2 = 1 then '[' :: rest.take (size + 1) else []
      plain.reverse :: backslashes (run / 2) :: tag :: stretches [] 0 (rest.drop (size + 1))
    | none => stretches ('[' :: backslashes run ++ plain) 0 rest
  | c :: rest => stretches (c :: backslashes run ++ plain) 0 rest
termination_by s.length

/-- What a text with markup shows. -/
def shown (s : List Char) : List Char :=
  (stretches [] 0 s).flatMap fun stretch => drawNames emoji? (plainText stretch)

end TabAudit.Console.Markup
