import TabAudit.Library
import TabAudit.Text.Quoted
/-!
# Refusals of the file system

A call to the file system is refused for one of a few causes, shown with a number, a text and the
path that was asked for.
-/

namespace TabAudit

/-- Why the file system refuses a call. -/
inductive DiskCause where
  | missing
  | inputOutput
  | denied
  | exists
  | notDirectory
  | isDirectory
  | nameTooLong
  | tooManyLinks
  deriving DecidableEq, Repr

/-- The number of a cause. -/
def DiskCause.number : DiskCause → Nat
  | missing => 2
  | inputOutput => 5
  | denied => 13
  | .exists => 17
  | notDirectory => 20
  | isDirectory => 21
  | nameTooLong => 36
  | tooManyLinks => 40

/-- The wording of a cause. -/
def DiskCause.text : DiskCause → String
  | missing => "No such file or directory"
  | inputOutput => "Input/output error"
  | denied => "Permission denied"
  | .exists => "File exists"
  | notDirectory => "Not a directory"
  | isDirectory => "Is a directory"
  | nameTooLong => "File name too long"
  | tooManyLinks => "Too many levels of symbolic links"

/-- A cause with its number. -/
def DiskCause.shown (c : DiskCause) : String := s!"[Errno {c.number}] {c.text}"

/-- The kind of a cause. -/
def DiskCause.kind (c : DiskCause) : FaultKind := if c = .denied then .denied else .system

/-- Whether those who ask what something is pass over a cause, as if nothing were there. -/
def DiskCause.isPassedOver : DiskCause → Bool
  | missing | notDirectory | tooManyLinks => true
  | _ => false

/-- A refused call. -/
inductive DiskError where
  | refused (cause : DiskCause) (path : String)
  /-- The path holds a zero character. -/
  | embeddedNul
  deriving DecidableEq, Repr

/-- The wording of a refusal. -/
def DiskError.message : DiskError → String
  | .refused cause path => s!"{cause.shown}: {quoted path}"
  | .embeddedNul => "embedded null byte"

/-- The kind of a refusal. -/
def DiskError.kind : DiskError → FaultKind
  | .refused cause _ => cause.kind
  | .embeddedNul => .value

end TabAudit
