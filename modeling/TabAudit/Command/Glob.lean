import TabAudit.Command.Outcome
/-!
# The command that tries out a glob

It prints the pattern that a glob becomes, and for each path whether the pattern accepts it.
-/

namespace TabAudit

/-- The line about a path. -/
def Pattern.verdictText [Terminal] (p : Pattern) (path : String) : List Char :=
  (if p.accepts path then "[green]match[/green]     " else "[dim]no match[/dim]  ").toList ++
    Terminal.escape path.toList

/-- The line about a pattern. -/
def Pattern.heading [Terminal] (p : Pattern) : List Char :=
  "[bold]Pattern:[/bold] ".toList ++ Terminal.escape p.text.toList

/-- The lines about a pattern and about paths as they are printed. -/
def Pattern.lines [Terminal] (p : Pattern) (paths : List String) : List (List Char) :=
  Terminal.printed p.heading :: paths.map fun path => Terminal.printed (p.verdictText path)

/-- Runs the command. -/
def runGlob [Terminal] (glob : String) (paths : List String) : CommandOutcome :=
  match (Pattern.tryCompile glob).outcome with
  | .error e => .early [] (Complaint.ending (.glob e))
  | .ok p => .print [] false (p.lines paths)

end TabAudit
