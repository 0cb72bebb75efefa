import TabAudit.Path.Windows
import TabAudit.Text.Quoted
/-!
# Paths below a base

Patterns are matched against what is left of a path once its base is taken off, with `/` between
the names whatever the system writes. A drive and a root count as two steps of their own.
-/

namespace TabAudit.Path

/-- The ways in which systems write and compare paths. -/
inductive Style where
  | posix
  | windows
  deriving DecidableEq, Repr

/-- The character between names. -/
def Style.separator : Style → Char
  | .posix => '/'
  | .windows => '\\'

/-- A path from its text. -/
def Style.read : Style → String → Path
  | .posix, s => Path.read s
  | .windows, s => readWindows s

/-- The form in which names are compared. -/
def Style.fold : Style → String → String
  | .posix, name => name
  | .windows, name => lowerCase name

/-- The steps from nowhere to a path. -/
def steps (p : Path) : List String :=
  if p.root ≠ "" then p.drive :: p.root :: p.names
  else if p.drive ≠ "" then p.drive :: p.names
  else p.names

/-- A path that does not lie below a base. -/
structure NotBelow where
  style : Style
  base : Path
  path : Path
  deriving DecidableEq, Repr

def NotBelow.message (e : NotBelow) : String :=
  let sep := e.style.separator
  s!"{quoted (e.path.text sep)} is not in the subpath of {quoted (e.base.write sep)}" ++
    " OR one path is relative and the other is absolute."

/-- Whether a path lies below a base, or is the base. -/
def isBelow (style : Style) (base path : Path) : Bool :=
  if base.steps = [] then path.root = "" && path.drive = ""
  else (path.steps.take base.steps.length).map style.fold = base.steps.map style.fold

/-- What is left of a path once a base is taken off. A base of a drive alone leaves the root. -/
def relativeTo (style : Style) (base path : Path) : Except NotBelow Path :=
  if isBelow style base path then
    let rest := path.steps.drop base.steps.length
    if base.steps.length = 1 && path.root ≠ "" then .ok ⟨"", path.root, rest.drop 1⟩
    else .ok (ofNames rest)
  else .error ⟨style, base, path⟩

/-- The text that patterns are matched against: nothing if the path is the base. -/
def normalize (style : Style) (base path : String) : Except NotBelow String :=
  match relativeTo style (style.read base) (style.read path) with
  | .error e => .error e
  | .ok rest =>
    if style.separator = '/' then .ok (rest.write '/')
    else .ok (String.ofList ((rest.write style.separator).toList.map fun c =>
      if c = style.separator then '/' else c))

end TabAudit.Path
