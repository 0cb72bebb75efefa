/-!
# Path patterns

A regular expression in the dialect that exclusion globs compile to: a sequence of character
classes, each with a count. `Regex.Lang` says which paths a sequence stands for, and
`Regex.accepts` decides it in one pass over the path for each piece.
-/

namespace TabAudit

/-- The characters that one place of a path may hold. -/
inductive CharClass where
  /-- Every character, line breaks included. -/
  | any
  /-- Every character but the separator. -/
  | notSlash
  /-- One character only. -/
  | exactly (c : Char)
  deriving DecidableEq, Repr

/-- Whether a class holds a character. -/
def CharClass.holds : CharClass → Char → Bool
  | .any, _ => true
  | .notSlash, c => c != '/'
  | .exactly d, c => c == d

/-- How many characters of its class a piece takes. -/
inductive Count where
  | one
  | optional
  | many
  deriving DecidableEq, Repr

/-- A character class with a count. -/
structure Piece where
  chars : CharClass
  count : Count
  deriving DecidableEq, Repr

/-- A pattern for whole paths: its pieces follow one another. -/
abbrev Regex := List Piece

/-! ## The language -/

/-- The strings that one piece stands for. -/
def Piece.Lang (p : Piece) (s : List Char) : Prop :=
  match p.count with
  | .one => ∃ c, p.chars.holds c = true ∧ s = [c]
  | .optional => s = [] ∨ ∃ c, p.chars.holds c = true ∧ s = [c]
  | .many => ∀ c ∈ s, p.chars.holds c = true

namespace Regex

/-- The strings that a pattern stands for: one string of each piece, joined. -/
def Lang : Regex → List Char → Prop
  | [], s => s = []
  | p :: r, s => ∃ a b, s = a ++ b ∧ p.Lang a ∧ Lang r b

/-! ## The decision -/

/-- One more piece in front of a pattern. `rest` tells for each suffix of the path, the longest
first, whether the pattern takes it; the result tells the same with the piece in front. -/
def extend (p : Piece) : List Char → List Bool → List Bool
  | [], rest => [p.count != .one && rest.headD false]
  | c :: s, rest =>
    let later := extend p s rest.tail
    let skip := p.count != .one && rest.headD false
    let take := p.chars.holds c &&
      (if p.count = .many then later.headD false else rest.tail.headD false)
    (skip || take) :: later

/-- For each suffix of the path, the longest first, whether the pattern takes it. -/
def table : Regex → List Char → List Bool
  | [], s => s.map (fun _ => false) ++ [true]
  | p :: r, s => extend p s (table r s)

/-- Whether a pattern stands for the whole path. -/
def accepts (r : Regex) (s : List Char) : Bool :=
  (table r s).headD false

end Regex

end TabAudit
