import TabAudit.Encoding.Decoder
import TabAudit.Value.Basic
/-!
# What the program runs on

The runtime brings encodings beyond those that are known here, and a library that reads and writes
YAML. It shows values within each other only down to some depth.
-/

namespace TabAudit

/-- A runtime. -/
class Runtime where
  /-- The way to decode what is in an encoding of another name than those known here. -/
  codec? : String → Option StreamDecoder
  /-- The value of a text in YAML. -/
  loadYaml : String → Except LibraryFault Value
  /-- The text of a mapping in YAML, given by its pairs. -/
  dumpYaml : List (Value × Value) → Except LibraryFault String
  /-- The number of values within each other that can be shown. -/
  shownDepth : Nat

end TabAudit
