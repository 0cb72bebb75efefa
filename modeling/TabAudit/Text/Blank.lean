/-!
# Blanks

The characters that separate words, in every script, and texts without them at their ends.
-/

namespace TabAudit

/-- Whether a character is blank. -/
def isBlank (c : Char) : Bool :=
  let n := c.toNat
  (9 ≤ n && n ≤ 13) || (28 ≤ n && n ≤ 32) || n == 0x85 || n == 0xA0 || n == 0x1680 ||
    (0x2000 ≤ n && n ≤ 0x200A) || n == 0x2028 || n == 0x2029 || n == 0x202F || n == 0x205F ||
    n == 0x3000

/-- A list without the members at its end that satisfy a test. -/
def dropWhileEnd (test : Char → Bool) (s : List Char) : List Char :=
  (s.reverse.dropWhile test).reverse

/-- A text without the blanks at both ends. -/
def trimBlanks (s : List Char) : List Char :=
  dropWhileEnd isBlank (s.dropWhile isBlank)

end TabAudit
