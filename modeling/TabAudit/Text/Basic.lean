/-!
# Texts

A text is a row of code points. Most are characters; a text that was written with escapes may also
hold halves of surrogate pairs, each without its other half. Such a half is shown only by its
escape. Names of files that are not UTF-8, which would hold halves as well, are no part of the
model.
-/

namespace TabAudit

/-- A code point of a text: a character, or one of the 2048 halves of surrogate pairs. -/
inductive CodePoint where
  | char (c : Char)
  | half (n : Fin 2048)
  deriving DecidableEq, Repr

namespace CodePoint

/-- The number of a code point. -/
def code : CodePoint → Nat
  | char c => c.toNat
  | half n => 0xD800 + n

/-- The code point of a number, if there is one. -/
def ofCode? (n : Nat) : Option CodePoint :=
  if h : 0xD800 ≤ n ∧ n < 0xE000 then some (half ⟨n - 0xD800, by omega⟩)
  else if n < 0x110000 then some (char (Char.ofNat n))
  else none

/-- The character of a code point, if it is one. -/
def char? : CodePoint → Option Char
  | char c => some c
  | half _ => none

/-- The character of a code point. A half is replaced. -/
def toChar : CodePoint → Char
  | char c => c
  | half _ => '\uFFFD'

end CodePoint

/-- A row of code points. -/
structure Text where
  points : List CodePoint
  deriving DecidableEq, Repr

namespace Text

/-- The text of characters. -/
def ofChars (s : List Char) : Text := ⟨s.map .char⟩

/-- The text of a string. -/
def ofString (s : String) : Text := ofChars s.toList

instance : Coe String Text := ⟨ofString⟩

instance : Inhabited Text := ⟨⟨[]⟩⟩

/-- The characters of a text. A half is replaced. -/
def chars (t : Text) : List Char := t.points.map CodePoint.toChar

/-- The characters of a text that holds nothing else. -/
def chars? (t : Text) : Option (List Char) := t.points.mapM CodePoint.char?

/-- The string of a text that holds characters only. -/
def string? (t : Text) : Option String := t.chars?.map String.ofList

def isEmpty (t : Text) : Bool := t.points.isEmpty

/-- A text with another behind it. -/
def append (t u : Text) : Text := ⟨t.points ++ u.points⟩

/-- A text whose characters in a row are each put through a function; a half ends a row. -/
def mapRows (f : List Char → List Char) (row : List Char) : List CodePoint → List CodePoint
  | [] => (f row.reverse).map .char
  | .char c :: rest => mapRows f (c :: row) rest
  | .half n :: rest => (f row.reverse).map .char ++ .half n :: mapRows f [] rest

/-- A text put through a function on strings, halves apart. -/
def map (f : String → String) (t : Text) : Text :=
  ⟨mapRows (fun row => (f (String.ofList row)).toList) [] t.points⟩

theorem chars?_ofChars (s : List Char) : (ofChars s).chars? = some s := by
  induction s with
  | nil => rfl
  | cons c rest ih =>
    simp only [chars?, ofChars, List.map_cons, List.mapM_cons] at ih ⊢
    simp [CodePoint.char?, ih]

theorem string?_ofString (s : String) : (ofString s).string? = some s := by
  simp [string?, ofString, chars?_ofChars]

theorem ofString_injective {s t : String} (h : ofString s = ofString t) : s = t := by
  have := congrArg string? h
  simpa [string?_ofString] using this

end Text

end TabAudit
