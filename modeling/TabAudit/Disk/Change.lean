import TabAudit.Disk.Lookup
/-!
# Changing what a disk holds

A new entry goes into a directory that is there. Directories are made along a path wherever nothing
is yet, the outermost first. A file that is written where a link stands goes to where the link
leads.
-/

namespace TabAudit

/-- The path of the directory that a path names an entry of. -/
def Path.parent (p : Path) : Path := { p with names := p.names.dropLast }

namespace Disk

/-- The disk with a new entry at a path, where nothing may be yet. -/
def makeEntry (d : Disk) (p : Path) (node : Node) : Except DiskError Disk :=
  let text := p.text '/'
  let refused (cause : DiskCause) : Except DiskError Disk := .error (.refused cause text)
  if text.toList.contains '\x00' then .error .embeddedNul
  else if pathLimit ≤ text.utf8ByteSize then refused .nameTooLong
  else
    match walk d.root .target linkLimit (d.startOf text) p.names.dropLast, p.names.getLast? with
    | .error cause, _ => refused cause
    | .ok _, none => refused .exists
    | .ok found, some name =>
      if !found.node.isDirectory then refused .notDirectory
      else if name = ".." then refused .exists
      else if nameLimit ≤ name.utf8ByteSize then refused .nameTooLong
      else if (found.node.child? name).isSome then refused .exists
      else .ok { d with root := d.root.set node (found.names ++ [name]) }

/-- The disk with a directory at a path, unless nothing is there to make it in. -/
def ensureDirectory (d : Disk) (p : Path) : Except DiskError Disk :=
  match d.makeEntry p .empty with
  | .ok d => .ok d
  | .error (.refused .missing path) => .error (.refused .missing path)
  | .error .embeddedNul => .error .embeddedNul
  | .error e =>
    match d.locate? p with
    | .error e => .error e
    | .ok found => if found.any (·.node.isDirectory) then .ok d else .error e

/-- The disk with directories along a path whose names are given from the last to the first. -/
def ensureAlong (d : Disk) (p : Path) : List String → Except DiskError Disk
  | [] => d.ensureDirectory p
  | name :: rest =>
    let here := { p with names := (name :: rest).reverse }
    match d.ensureDirectory here with
    | .error (.refused .missing _) =>
      match d.ensureAlong p rest with
      | .error e => .error e
      | .ok d => d.ensureDirectory here
    | result => result

/-- The disk with directories along a path. -/
def makeDirectories (d : Disk) (p : Path) : Except DiskError Disk :=
  d.ensureAlong p p.names.reverse

/-- The disk with a file written to where a path leads. -/
def writeFile (d : Disk) (p : Path) (file : Node) : Except DiskError Disk :=
  match d.findText .file (p.text '/') with
  | .error e => .error e
  | .ok found =>
    if found.node.isDirectory then .error (.refused .isDirectory (p.text '/'))
    else .ok { d with root := d.root.set file found.names }

/-- The disk with a node at a path, whose directories are made if need be. A directory that is
already there keeps its entries. -/
def place (d : Disk) (p : Path) (node : Node) : Except DiskError Disk :=
  match d.makeDirectories p.parent with
  | .error e => .error e
  | .ok d =>
    match node with
    | .file .. => d.writeFile p node
    | .directory refusal _ =>
      match d.ensureDirectory p with
      | .error e => .error e
      | .ok d =>
        match d.findText .target (p.text '/') with
        | .error e => .error e
        | .ok found =>
          .ok { d with root := d.root.set (.directory refusal found.node.entries) found.names }
    | node => d.makeEntry p node

end Disk

end TabAudit
