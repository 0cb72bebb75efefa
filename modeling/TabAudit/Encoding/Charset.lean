import TabAudit.Encoding.Name
import TabAudit.Runtime
/-!
# Encodings of files

A file may be in an encoding that is known here, or in one of the runtime, which is nothing but a
way to decode.
-/

namespace TabAudit

/-- An encoding that files may be in. -/
inductive Charset where
  | known (encoding : Encoding)
  | other (way : StreamDecoder)

namespace Charset

/-- The way to decode a stream in an encoding. -/
def stream : Charset → StreamDecoder
  | known encoding => encoding.stream
  | other way => way

/-- The encoding that a name stands for, here or in the runtime. -/
def find [Runtime] (name : String) : Except Encoding.NameFault Charset :=
  match Encoding.find name with
  | .ok encoding => .ok (.known encoding)
  | .error .embeddedNul => .error .embeddedNul
  | .error .unknown =>
    match Runtime.codec? name with
    | some way => .ok (.other way)
    | none => .error .unknown

end Charset

end TabAudit
