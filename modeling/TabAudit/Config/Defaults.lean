import TabAudit.Config.Section
import TabAudit.Log
import TabAudit.Text.Lines
/-!
# Defaults

A program's defaults may stand in a YAML text of their own. Where it says nothing, or is missing
or malformed, the built-in settings hold.
-/

namespace TabAudit

/-- Where defaults come from. -/
inductive Defaults where
  | builtIn
  /-- A text that should stand in a file. -/
  | text (content : String)
  /-- A file that should be there. -/
  | missing (path : String)
  deriving DecidableEq, Repr

/-- Why a text gives no defaults. -/
inductive DefaultsFault where
  | yaml (fault : LibraryFault)
  /-- A value that should be a mapping is none. -/
  | notMapping (v : Value)
  /-- The globs have no items. -/
  | notItems (v : Value)
  | field (fault : FieldFault)
  deriving Repr

def DefaultsFault.message : DefaultsFault → String
  | .yaml fault => fault.message
  | .notMapping v => s!"'{v.kindName}' object has no attribute 'get'"
  | .notItems v => s!"'{v.kindName}' object is not iterable"
  | .field fault => fault.message

/-- The kind of a fault. -/
def DefaultsFault.kind : DefaultsFault → FaultKind
  | .yaml fault => fault.kind
  | .notMapping _ => .other "AttributeError"
  | .notItems _ => .type
  | .field fault => fault.kind

namespace Defaults

/-- The pairs of a value that should be a mapping; a value that is nothing has none. -/
def pairsOf (v : Value) : Except DefaultsFault (List (Value × Value)) :=
  if !v.isTruthy then .ok []
  else
    match v.opened with
    | .dict pairs => .ok pairs
    | _ => .error (.notMapping v)

/-- The items of a value, as a list. -/
def itemsOf (v : Value) : Except DefaultsFault Value :=
  match v.opened with
  | .list items => .ok (.list items)
  | .tuple items => .ok (.list items)
  | .set items => .ok (.list items)
  | .dict pairs => .ok (.list (pairs.map Prod.fst))
  | .str s => .ok (.list (s.points.map fun p => .str ⟨[p]⟩))
  | .bytes bs => .ok (.list (bs.map fun b => .int b.toNat))
  | _ => .error (.notItems v)

/-- The pairs with the items of the globs in the place of the globs. -/
def listGlobs (pairs : List (Value × Value)) : Except DefaultsFault (List (Value × Value)) :=
  match Value.find? (.str "exclude_globs") pairs with
  | none => .ok pairs
  | some v =>
    match itemsOf v with
    | .error e => .error e
    | .ok items => .ok (Value.put (.str "exclude_globs") items pairs)

/-- The pairs of a section of defaults. -/
def sectionPairs (top : List (Value × Value)) (part : Section) :
    Except DefaultsFault (List (Value × Value)) :=
  pairsOf ((Value.find? (.str part.key) top).getD .null)

/-- The settings of defaults that are a value. Keys that name no field are ignored. -/
def ofValue [Runtime] (v : Value) : Except DefaultsFault Settings :=
  match pairsOf v with
  | .error e => .error e
  | .ok top =>
    match sectionPairs top .scan with
    | .error e => .error e
    | .ok scan =>
      match listGlobs scan with
      | .error e => .error e
      | .ok scan =>
        match Settings.builtIn.scan.replace scan with
        | .error e => .error (.field e)
        | .ok scan =>
          match sectionPairs top .logging with
          | .error e => .error e
          | .ok logging => .ok ⟨scan, Settings.builtIn.logging.replace logging⟩

/-- The settings of defaults, and what the log says about them. -/
def settings [Runtime] : Defaults → Except DefaultsFault Settings × Log
  | .builtIn => (.ok .builtIn, [])
  | .missing path => (.ok .builtIn, [Log.warning s!"Defaults config not found: {path}"])
  | .text content =>
    match Runtime.loadYaml (textAsRead content) with
    | .ok v => (ofValue v, [])
    | .error fault =>
      if fault.kind = .yaml then (.ok .builtIn, [Log.error "Failed to parse defaults config"])
      else (.error (.yaml fault), [])

end Defaults

end TabAudit
