import TabAudit.Text.Basic
/-!
# The tokens of a YAML text

Marks, words and scalars, with the starts and ends of the collections that indentation shows.
-/

namespace TabAudit.Yaml

/-- A tag as it is written: the name of a handle, if it has one, and the rest. -/
structure TagText where
  handle : Option String
  suffix : String
  deriving DecidableEq, Repr

/-- A piece of a text. -/
inductive Token where
  /-- A version of the format. -/
  | version (major : Nat)
  /-- A handle for tags, and what it stands for. -/
  | handle (name : String) (stem : String)
  /-- A directive with another name. -/
  | directive
  | documentStart
  | documentEnd
  | blockSequenceStart
  | blockMappingStart
  | blockEnd
  | flowSequenceStart
  | flowSequenceEnd
  | flowMappingStart
  | flowMappingEnd
  | blockEntry
  | flowEntry
  | key
  | value
  | alias (name : String)
  | anchor (name : String)
  | tag (tag : TagText)
  | scalar (text : Text) (plain : Bool)
  | streamEnd
  deriving DecidableEq, Repr

end TabAudit.Yaml
