import TabAudit.Runtime
import TabAudit.Value.Display
import TabAudit.Yaml.Read
import TabAudit.Yaml.Write
/-!
# YAML for a runtime

What is read and written here as a library gives it to those who use it: a fault is of some kind
and has a wording, and no mapping is written with a whole number of too many digits in it, or with
too many collections within each other.
-/

namespace TabAudit.Yaml

/-- The kind of a fault. -/
def Fault.kind : Fault → FaultKind
  | .malformed => .yaml
  | .noCharacter code => if code < Nat.pow 2 31 then .value else .other "OverflowError"
  | .notTruth _ => .other "KeyError"
  | .emptyNumber => .other "IndexError"
  | .notStamp => .other "AttributeError"
  | .stampNotText => .type
  | .placeTooLarge => .other "OverflowError"
  | .tooDeep => .other "RecursionError"
  | _ => .value

/-- A fault as callers see it. -/
def Fault.seen (fault : Fault) : LibraryFault := ⟨fault.kind, fault.message⟩

/-- The number of collections within each other that are written. -/
def writtenDepth : Nat := 326

/-- The text of a mapping, if it can be written. -/
def dump (pairs : List (Value × Value)) : Except LibraryFault String :=
  if !Value.pairsAreShowable pairs then
    .error ⟨DisplayFault.tooManyDigits.kind, DisplayFault.tooManyDigits.message⟩
  else if (Value.dict pairs).depth?.any (writtenDepth < ·) then .error Fault.tooDeep.seen
  else .ok (write pairs)

/-- A runtime with this YAML and no encodings but those known here. -/
@[reducible] def runtime : Runtime where
  codec? _ := none
  loadYaml text := (read text).mapError Fault.seen
  dumpYaml := dump
  shownDepth := 990

end TabAudit.Yaml
