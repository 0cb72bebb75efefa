import TabAudit.Path.Basic
import TabAudit.Text.Case
/-!
# Windows paths

Both slashes separate names. The drive is a letter with a colon or a network share; a prefix in
front of it that asks for extended lengths belongs to it.
-/

namespace TabAudit.Path

/-- The two names of a network share and what follows them, for a text behind its two backslashes.
The first name ends at a backslash, and no second one may follow at once. -/
def readShare (s : List Char) : Option (List Char × List Char) :=
  match s.span (· ≠ '\\') with
  | (_, []) => none
  | (_, ['\\']) => some (s, [])
  | (machine, sep :: rest) =>
    match rest.span (· ≠ '\\') with
    | ([], _) => none
    | (mount, tail) => some (machine ++ sep :: mount, tail.drop 1)

/-- The prefix for extended lengths and what follows it. Behind it a share is written without its
first backslash, which is put back. -/
def readExtended : List Char → List Char × List Char
  | '\\' :: '\\' :: '?' :: '\\' :: 'U' :: 'N' :: 'C' :: '\\' :: rest =>
    (['\\', '\\', '?', '\\', 'U', 'N', 'C'], '\\' :: '\\' :: rest)
  | '\\' :: '\\' :: '?' :: '\\' :: rest => (['\\', '\\', '?', '\\'], rest)
  | s => ([], s)

/-- A drive letter and what follows it. -/
def readLetter : List Char → List Char × List Char
  | c :: ':' :: rest => if c.isAlpha then ([c, ':'], rest) else ([], c :: ':' :: rest)
  | s => ([], s)

/-- The drive, the root and the rest of a text. -/
def readAnchor (s : List Char) : List Char × List Char × List Char :=
  let (extended, s) := readExtended s
  let share :=
    match s with
    | '\\' :: '\\' :: rest =>
      if rest.head? = some '\\' then none
      else (readShare rest).map fun (share, tail) =>
        (if extended.isEmpty then '\\' :: '\\' :: share else extended ++ '\\' :: share, tail)
    | _ => none
  match share with
  | some (drive, tail) => (drive, ['\\'], tail)
  | none =>
    let (letter, rest) := readLetter s
    match rest with
    | '\\' :: tail => (extended ++ letter, ['\\'], tail.dropWhile (· = '\\'))
    | tail => (extended ++ letter, [], tail)

/-- Reads a Windows path. -/
def readWindows (s : String) : Path :=
  let (drive, root, rest) := readAnchor (s.toList.map fun c => if c = '/' then '\\' else c)
  ⟨String.ofList drive, String.ofList root, readNames '\\' rest⟩

end TabAudit.Path
