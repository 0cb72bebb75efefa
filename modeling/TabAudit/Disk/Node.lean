import TabAudit.Bytes.Source
import TabAudit.Disk.Error
/-!
# What a disk holds

A disk is a tree of directories, files, symbolic links and pipes. A file may refuse to be opened
or fail while it is read, and a directory may refuse to be listed. Of some entries the system does
not tell what they are.
-/

namespace TabAudit

/-- How a file answers those who read it. -/
inductive FileAccess where
  | sound
  /-- It cannot be opened. -/
  | closed (cause : DiskCause)
  /-- It gives so many bytes and then fails. -/
  | failsAfter (size : Nat)
  deriving DecidableEq, Repr

/-- A directory, a file, a symbolic link or a pipe, or something that cannot be asked about. -/
inductive Node where
  | directory (refusal : Option DiskCause) (entries : List (String × Node))
  | file (content : List UInt8) (access : FileAccess)
  | link (target : String)
  | pipe
  | unasked (cause : DiskCause)
  deriving Repr

/-- Where those who read a file fail. -/
inductive FileFailure where
  | opening (cause : DiskCause)
  | reading (cause : DiskCause)
  deriving DecidableEq, Repr

/-- Where those fail who read a file of some size to its end, if they do. -/
def FileAccess.failure? (size : Nat) : FileAccess → Option FileFailure
  | sound => none
  | closed cause => some (.opening cause)
  | failsAfter limit => if size < limit then none else some (.reading .inputOutput)

namespace Node

/-- An empty directory. -/
def empty : Node := .directory none []

/-- An empty file. -/
def blank : Node := .file [] .sound

def isDirectory : Node → Bool
  | .directory .. => true
  | _ => false

def isLink : Node → Bool
  | .link _ => true
  | _ => false

/-- The entries of a directory. -/
def entries : Node → List (String × Node)
  | .directory _ entries => entries
  | _ => []

/-- The entry of a name. -/
def child? (n : Node) (name : String) : Option Node := n.entries.lookup name

/-- A directory with an entry for a name, in the place of the one it had or else at the end. -/
def setEntry (n : Node) (name : String) (new : Node) : Node :=
  match n with
  | .directory refusal entries =>
    if (entries.lookup name).isSome then
      .directory refusal (entries.map fun e => if e.1 = name then (name, new) else e)
    else .directory refusal (entries ++ [(name, new)])
  | other => other

/-- The tree with another node where names lead, every name but the last being a directory's. -/
def set (n : Node) (new : Node) : List String → Node
  | [] => new
  | name :: rest =>
    match n.child? name with
    | some child => n.setEntry name (child.set new rest)
    | none => n.setEntry name (empty.set new rest)

/-- What a read of the file answers. -/
def source (content : List UInt8) (access : FileAccess) : Source :=
  match access with
  | .failsAfter size =>
    if content.length < size then [.bytes content]
    else
      (if size = 0 then [] else [.bytes (content.take size)]) ++
        [.failure DiskCause.inputOutput.shown]
  | _ => [.bytes content]

end Node

end TabAudit
