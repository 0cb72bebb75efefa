import TabAudit.Config.Settings
import TabAudit.Number.Numeral
import TabAudit.Runtime
import TabAudit.Value.Display
/-!
# Sections of settings

Settings are given in sections, each a mapping from fields to values. A section replaces the
fields that it names and leaves the others as they were. The values of the scan section are looked
at here: what comes out is valid, whatever went in.
-/

namespace TabAudit

/-- The sections of settings. -/
inductive Section where
  | scan
  | logging
  deriving DecidableEq, Repr

namespace Section

/-- The key of a section. -/
def key : Section → String
  | scan => "scan"
  | logging => "logging"

/-- The name of a section in messages. -/
def shown : Section → String
  | scan => "ScanConfig"
  | logging => "LoggingConfig"

/-- The keys of a section's fields. -/
def fields : Section → List String
  | scan => ["exclude_globs", "encoding", "nul_run_threshold", "buffer_size"]
  | logging => ["level", "format"]

end Section

/-! ## Fields of the scan section -/

/-- The sizes that a scan works with. -/
inductive ScanSize where
  | nulRunThreshold
  | bufferSize
  deriving DecidableEq, Repr

/-- The name of a size in messages. -/
def ScanSize.shown : ScanSize → String
  | nulRunThreshold => "scan.nul_run_threshold"
  | bufferSize => "scan.buffer_size"

/-- Why a value is none that its field can have. -/
inductive FieldFault where
  | globsNotListed (shown : String)
  | globNotText (shown : String)
  | encodingNotText (shown : String)
  | sizeNotWhole (size : ScanSize) (shown : String)
  | sizeNotPositive (size : ScanSize) (n : Int)
  | sizeInfinite
  /-- The value cannot be shown in the message. -/
  | unshown (fault : DisplayFault)
  deriving DecidableEq, Repr

def FieldFault.message : FieldFault → String
  | .globsNotListed shown => s!"scan.exclude_globs must be a list of globs, not {shown}"
  | .globNotText shown => s!"scan.exclude_globs entries must be strings, not {shown}"
  | .encodingNotText shown => s!"scan.encoding must be a string, not {shown}"
  | .sizeNotWhole size shown => s!"{size.shown} must be an integer, not {shown}"
  | .sizeNotPositive size n =>
    messageWith (showInt n) fun shown => s!"{size.shown} must be positive, but is {shown}"
  | .sizeInfinite => "cannot convert float infinity to integer"
  | .unshown fault => fault.message

/-- The kind of a fault. -/
def FieldFault.kind : FieldFault → FaultKind
  | .sizeInfinite => .other "OverflowError"
  | .unshown fault => fault.kind
  | _ => .value

/-- The fault of a value that the message shows, if it can be shown. -/
def FieldFault.showing [Runtime] (v : Value) (fault : String → FieldFault) : FieldFault :=
  match v.display Runtime.shownDepth with
  | .ok shown => fault shown
  | .error e => .unshown e

/-- Globs from the items of a list. -/
def readGlobItems [Runtime] : List Value → Except FieldFault (List Text)
  | [] => .ok []
  | .str glob :: rest =>
    match readGlobItems rest with
    | .error e => .error e
    | .ok globs => .ok (glob :: globs)
  | v :: _ => .error (.showing v .globNotText)

/-- Globs from a value. -/
def readGlobs [Runtime] (v : Value) : Except FieldFault (List Text) :=
  match v.opened with
  | .list items => readGlobItems items
  | .tuple items => readGlobItems items
  | _ => .error (.showing v .globsNotListed)

/-- An encoding from a value. -/
def readEncoding [Runtime] (v : Value) : Except FieldFault (Option Text) :=
  match v with
  | .null => .ok none
  | .str s => .ok (some s)
  | v => .error (.showing v .encodingNotText)

/-- The whole number in a value: a number without what stands behind its point, or a numeral. A
truth value is none. -/
def Value.toWhole? : Value → Option Int
  | .int n => some n
  | .float x => if x.isNaN || x.isInfinite then none else some x.truncate
  | .str s => (Numeral.read s).toOption
  | .bytes bs =>
    if bs.all (· < 128) then
      (Numeral.read (String.ofList (bs.map fun b => Char.ofNat b.toNat))).toOption
    else none
  | _ => none

/-- Whether a value is an infinite number. -/
def Value.isInfinite : Value → Bool
  | .float x => x.isInfinite
  | _ => false

/-- A size from a value. -/
def readSize [Runtime] (size : ScanSize) (v : Value) : Except FieldFault Int :=
  if v.isInfinite then .error .sizeInfinite
  else
    match v.toWhole? with
    | none => .error (.showing v (.sizeNotWhole size))
    | some n => if n < 1 then .error (.sizeNotPositive size n) else .ok n

/-- A field that pairs may name, or else what it was. -/
def readField {α : Type} (pairs : List (Value × Value)) (key : String)
    (read : Value → Except FieldFault α) (old : α) : Except FieldFault α :=
  match Value.find? (.str key) pairs with
  | some v => read v
  | none => .ok old

/-- Scan settings with the fields that pairs name. The first fault in the order of the fields
counts. -/
def ScanSettings.replace [Runtime] (s : ScanSettings) (pairs : List (Value × Value)) :
    Except FieldFault ScanSettings :=
  match readField pairs "exclude_globs" readGlobs s.excludeGlobs with
  | .error e => .error e
  | .ok globs =>
    match readField pairs "encoding" readEncoding s.encoding with
    | .error e => .error e
    | .ok encoding =>
      match readField pairs "nul_run_threshold" (readSize .nulRunThreshold) s.nulRunThreshold with
      | .error e => .error e
      | .ok threshold =>
        match readField pairs "buffer_size" (readSize .bufferSize) s.bufferSize with
        | .error e => .error e
        | .ok size => .ok ⟨globs, encoding, threshold, size⟩

/-- Log settings with the fields that pairs name. -/
def LogSettings.replace (s : LogSettings) (pairs : List (Value × Value)) : LogSettings where
  level := (Value.find? (.str "level") pairs).getD s.level
  format := (Value.find? (.str "format") pairs).getD s.format

/-! ## Mappings with sections -/

/-- Why a value holds no sections, or a section no fields. -/
inductive SectionFault where
  /-- Nothing can be looked up in the value. -/
  | notSearchable (v : Value)
  /-- The value holds a section's key, but nothing under it. -/
  | notKeyed (v : Value)
  | notMapping (part : Section) (v : Value)
  | keyNotText
  | keyUnknown (part : Section) (key : Text)
  | keyReserved (part : Section) (key : Text)
  deriving Repr

def SectionFault.message : SectionFault → String
  | .notSearchable (.bytes _) => "a bytes-like object is required, not 'str'"
  | .notSearchable v => s!"argument of type '{v.kindName}' is not iterable"
  | .notKeyed (.str _) => "string indices must be integers, not 'str'"
  | .notKeyed (.set _) => "'set' object is not subscriptable"
  | .notKeyed v => s!"{v.kindName} indices must be integers or slices, not str"
  | .notMapping part v =>
    s!"notabs.core.config.{part.shown}() argument after ** must be a mapping, not {v.kindName}"
  | .keyNotText => "keywords must be strings"
  | .keyUnknown part key =>
    s!"{part.shown}.__init__() got an unexpected keyword argument '{key.shown}'"
  | .keyReserved part key =>
    s!"{part.shown}.__init__() got multiple values for argument '{key.shown}'"

/-- The key that no section can have. -/
def reservedKey : String := "self"

/-- The fault of the first key that is none of a section's. -/
def Section.firstStranger? (part : Section) : List (Value × Value) → Option SectionFault
  | [] => none
  | (.str key, _) :: rest =>
    if key = Text.ofString reservedKey then some (.keyReserved part key)
    else if (part.fields.map Text.ofString).contains key then part.firstStranger? rest
    else some (.keyUnknown part key)
  | _ :: _ => some .keyNotText

/-- Whether a value is a text. -/
def Value.isStr : Value → Bool
  | .str _ => true
  | _ => false

/-- The pairs of a section's value. A key that is no text counts before any other fault. -/
def Section.pairs (part : Section) (v : Value) : Except SectionFault (List (Value × Value)) :=
  match v.opened with
  | .dict pairs =>
    if pairs.any fun (k, _) => !k.isStr then .error .keyNotText
    else
      match part.firstStranger? pairs with
      | some fault => .error fault
      | none => .ok pairs
  | _ => .error (.notMapping part v)

/-- Whether some stretch of a text is another text. -/
def hasStretch (part : List CodePoint) : List CodePoint → Bool
  | [] => part.isEmpty
  | p :: rest => part.isPrefixOf (p :: rest) || hasStretch part rest

/-- What a value holds under the key of a section, if it holds the key. -/
def Section.find? (part : Section) (v : Value) : Except SectionFault (Option Value) :=
  let key : Text := part.key
  let among (items : List Value) : Except SectionFault (Option Value) :=
    if items.any (Value.sameKey · (.str key)) then .error (.notKeyed v) else .ok none
  match v.opened with
  | .dict pairs => .ok (Value.find? (.str key) pairs)
  | .list items => among items
  | .tuple items => among items
  | .set items => among items
  | .str s => if hasStretch key.points s.points then .error (.notKeyed v) else .ok none
  | _ => .error (.notSearchable v)

end TabAudit
