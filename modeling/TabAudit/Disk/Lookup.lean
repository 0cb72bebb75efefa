import TabAudit.Disk.Node
import TabAudit.Path.Basic
/-!
# Finding what a path leads to

The system walks a path name by name, follows symbolic links on the way, and gives up after forty
of them. A walk may be for the entry at the end of the path, for what that entry leads to, or for
the place of a file that is to be written there.
-/

namespace TabAudit

/-- A disk as a program sees it: its tree, the names of the current directory, and the text that
the current directory is shown as. -/
structure Disk where
  root : Node
  here : List String
  hereText : String
  deriving Repr

/-- Something found on a disk, and the names that lead to it without links. -/
structure Located where
  names : List String
  node : Node
  deriving Repr

namespace Disk

/-- The number of links that one walk follows. -/
def linkLimit : Nat := 40

/-- The size in bytes from which on a name is too long. -/
def nameLimit : Nat := 256

/-- The size in bytes from which on a path is too long. -/
def pathLimit : Nat := 4096

/-- The steps that a text asks for. One that ends in a slash ends in a step without a name, which
only a directory allows. -/
def textSteps (s : String) : List String :=
  let names := ((splitAtEach '/' s.toList).filter (· ≠ [])).map String.ofList
  if s.toList.getLast? = some '/' then names ++ [""] else names

/-- Whether a step stays on the spot. -/
def staysPut (step : String) : Bool := step = "." || step.isEmpty

/-- Whether a text starts at the root. -/
def isAbsolute (s : String) : Bool := s.toList.head? = some '/'

/-- The way from the root to somewhere: what was walked through, the last first. -/
abbrev Trail := List (String × Node)

/-- What a trail leads to. -/
def Trail.node (root : Node) : Trail → Node
  | [] => root
  | (_, node) :: _ => node

/-- The names of a trail. -/
def Trail.names (trail : Trail) : List String := (trail.map (·.1)).reverse

/-- What a walk is for. -/
inductive Aim where
  /-- The entry at the end, even if it is a link. -/
  | entry
  /-- What the entry at the end leads to. -/
  | target
  /-- The place of a file to be written, which need not be there yet. -/
  | file
  deriving DecidableEq, Repr

/-- Walks steps from the end of a trail. -/
def walk (root : Node) (aim : Aim) (links : Nat) (trail : Trail) (todo : List String) :
    Except DiskCause Located :=
  match todo with
  | [] => .ok ⟨trail.names, trail.node root⟩
  | step :: rest =>
    if !(trail.node root).isDirectory then .error .notDirectory
    else if staysPut step then walk root aim links trail rest
    else if step = ".." then walk root aim links (trail.drop 1) rest
    else if aim = .file && rest = [""] then .error .isDirectory
    else if nameLimit ≤ step.utf8ByteSize then .error .nameTooLong
    else
      match (trail.node root).child? step with
      | none =>
        if aim = .file && rest = [] then
          .ok ⟨Trail.names ((step, .blank) :: trail), .blank⟩
        else .error .missing
      | some (.link target) =>
        if aim = .entry && rest = [] then
          .ok ⟨Trail.names ((step, .link target) :: trail), .link target⟩
        else
          match links with
          | 0 => .error .tooManyLinks
          | links + 1 =>
            walk root aim links (if isAbsolute target then [] else trail)
              (textSteps target ++ rest)
      | some (.unasked cause) => .error cause
      | some node => walk root aim links ((step, node) :: trail) rest
termination_by (links, todo.length)

/-- The trail along names that are all there. -/
def trailTo (n : Node) (trail : Trail) : List String → Trail
  | [] => trail
  | name :: rest =>
    match n.child? name with
    | some child => trailTo child ((name, child) :: trail) rest
    | none => trail

/-- The trail that a relative or absolute text starts from. -/
def startOf (d : Disk) (s : String) : Trail :=
  if isAbsolute s then [] else trailTo d.root [] d.here

/-- What a walk along a text comes to. -/
def findText (d : Disk) (aim : Aim) (s : String) : Except DiskError Located :=
  if s.toList.contains '\x00' then .error .embeddedNul
  else if pathLimit ≤ s.utf8ByteSize then .error (.refused .nameTooLong s)
  else if s.isEmpty then .error (.refused .missing s)
  else
    match walk d.root aim linkLimit (d.startOf s) (textSteps s) with
    | .ok found => .ok found
    | .error cause => .error (.refused cause s)

/-- Names as they are shown, from the root or from the current directory. -/
def display (d : Disk) (names : List String) : String :=
  match d.here.isPrefixOf? names with
  | some rest =>
    let text := String.join (d.hereText :: rest.map ("/" ++ ·))
    if text.isEmpty then "/" else text
  | none => "/" ++ Path.joinNames '/' names

/-- What names without links lead to, whatever they are shown as. -/
def findNames (d : Disk) (names : List String) : Except DiskError Located :=
  if (d.display names).toList.contains '\x00' then .error .embeddedNul
  else if pathLimit ≤ (d.display names).utf8ByteSize then
    .error (.refused .nameTooLong (d.display names))
  else
    match walk d.root .target linkLimit [] names with
    | .ok found => .ok found
    | .error cause => .error (.refused cause (d.display names))

/-- Something that was asked for, if it is there; some refusals count as if it were not. -/
def ifThere (outcome : Except DiskError Located) : Except DiskError (Option Located) :=
  match outcome with
  | .ok found => .ok (some found)
  | .error (.refused cause path) =>
    if cause.isPassedOver then .ok none else .error (.refused cause path)
  | .error .embeddedNul => .ok none

/-- What a path leads to, if anything. -/
def locate? (d : Disk) (p : Path) : Except DiskError (Option Located) :=
  ifThere (d.findText .target (p.text '/'))

end Disk

end TabAudit
