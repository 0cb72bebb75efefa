import TabAudit.Text.Blank
/-!
# Names between colons

A name between two colons of a text, without blanks in it, may stand for something that is drawn in
its place. Other names are left as they are, with their colons; the colon that ends one name starts
no other.
-/

namespace TabAudit

/-- The characters up to the colon that ends a name, if one does. -/
def nameBefore? (s : List Char) : Option (List Char) :=
  let name := s.takeWhile fun c => c ≠ ':' && !isBlank c
  if (s.drop name.length).head? = some ':' then some name else none

/-- A text with drawings in the place of the names that have one. -/
def drawNames (drawing? : List Char → Option (List Char)) (s : List Char) : List Char :=
  match s with
  | [] => []
  | ':' :: rest =>
    match nameBefore? rest with
    | some name =>
      (drawing? name).getD (':' :: name ++ [':']) ++
        drawNames drawing? (rest.drop (name.length + 1))
    | none => ':' :: drawNames drawing? rest
  | c :: rest => c :: drawNames drawing? rest
termination_by s.length

end TabAudit
