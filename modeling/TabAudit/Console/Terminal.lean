import TabAudit.Console.Markup
import TabAudit.Console.Page
import TabAudit.Console.Panel
import TabAudit.Terminal
/-!
# A console

A terminal without colours, with lines of some width, that takes whatever is printed on it.
-/

namespace TabAudit.Console

/-- A console with lines of some width. -/
@[reducible] def terminal (width : Nat) : Terminal where
  escape := Markup.escape
  shown := Markup.shown
  emoji? := emoji?
  width := width
  columns := cells
  page := page width
  panel := Panel.printed
  outputFault? _ _ := none
  errorFault? _ := none

/-- The console where no width is told. -/
@[reducible] def usual : Terminal := terminal 80

end TabAudit.Console
