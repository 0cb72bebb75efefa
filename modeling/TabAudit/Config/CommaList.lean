import TabAudit.Text.Blank
import TabAudit.Text.Pieces
/-!
# Lists between commas

A list given as one text has commas between its items. Blanks around items are dropped, and so are
items of nothing else.
-/

namespace TabAudit

/-- The items of a list between commas. -/
def commaItems (s : String) : List String :=
  (((splitAtEach ',' s.toList).map trimBlanks).filter (· ≠ [])).map String.ofList

end TabAudit
