/-!
# Pieces of a text

A text is cut at every occurrence of a separator; the pieces joined by that separator are the text
again.
-/

namespace TabAudit

variable {α : Type} [DecidableEq α]

/-- The pieces of a text between occurrences of a separator. -/
def splitAtEach (sep : α) : List α → List (List α)
  | [] => [[]]
  | c :: rest =>
    if c = sep then [] :: splitAtEach sep rest
    else
      match splitAtEach sep rest with
      | [] => [[c]]
      | piece :: pieces => (c :: piece) :: pieces

/-- Texts in a row with a separator between each two. -/
def joinWith {α : Type} (sep : α) : List (List α) → List α
  | [] => []
  | [piece] => piece
  | piece :: pieces => piece ++ sep :: joinWith sep pieces

theorem splitAtEach_ne_nil (sep : α) (s : List α) : splitAtEach sep s ≠ [] := by
  induction s with
  | nil => simp [splitAtEach]
  | cons c rest ih =>
    unfold splitAtEach
    split
    · simp
    · split <;> simp

theorem joinWith_splitAtEach (sep : α) (s : List α) :
    joinWith sep (splitAtEach sep s) = s := by
  induction s with
  | nil => rfl
  | cons c rest ih =>
    unfold splitAtEach
    split
    · rename_i h
      cases hp : splitAtEach sep rest with
      | nil => exact absurd hp (splitAtEach_ne_nil sep rest)
      | cons piece pieces => simp [joinWith, ← hp, ih, h]
    · cases hp : splitAtEach sep rest with
      | nil => exact absurd hp (splitAtEach_ne_nil sep rest)
      | cons piece pieces =>
        rw [hp] at ih
        cases pieces with
        | nil => simpa [joinWith] using ih
        | cons next more => simpa [joinWith] using ih

end TabAudit
