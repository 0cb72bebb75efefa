import TabAudit.Glob.Pattern
import TabAudit.Runtime
import TabAudit.Value.Display
/-!
# Collections of globs

Exclusion globs come as a list of texts. A single text is no collection, though it could be taken
for one of its characters. Members that are no texts count as the texts they are shown as. Paths
that hold half of a surrogate pair, as those do whose names are not UTF-8, are no part of the model,
so a glob with one in it only has to be well formed.
-/

namespace TabAudit

/-- Why a value gives no patterns. -/
inductive CollectionError where
  /-- The value is a single text. -/
  | single (shown : String)
  | notACollection (value : Value)
  | malformed (error : GlobError)
  /-- A member cannot be shown. -/
  | unshown (fault : DisplayFault)
  deriving Repr

def CollectionError.message : CollectionError → String
  | .single shown => s!"globs must be a collection of strings, not a single string: {shown}"
  | .notACollection value => s!"'{value.kindName}' object is not iterable"
  | .malformed error => error.message
  | .unshown fault => fault.message

/-- The members of a value: the items of a row, or the keys of a mapping. -/
def Value.members? : Value → Option (List Value)
  | .list items => some items
  | .tuple items => some items
  | .set items => some items
  | .dict pairs => some (pairs.map Prod.fst)
  | _ => none

namespace Pattern

/-- The pattern of a text, unless its glob holds what no path does. -/
def ofText? (t : Text) : Except GlobError (Option Pattern) :=
  match t.string? with
  | some glob => (compile glob).map some
  | none =>
    match Glob.firstFault true (Glob.tokens t.chars) with
    | some fault => .error ⟨t.shown, fault⟩
    | none => .ok none

/-- The pattern of a member, unless its glob holds what no path does. -/
def ofMember? [Runtime] (v : Value) : Except CollectionError (Option Pattern) :=
  match v with
  | .str t => (ofText? t).mapError .malformed
  | v =>
    match v.text Runtime.shownDepth with
    | .error e => .error (.unshown e)
    | .ok glob => ((compile glob).map some).mapError .malformed

/-- The patterns of members, or the error of the first that is unusable. -/
def ofMembers [Runtime] : List Value → Except CollectionError (List Pattern)
  | [] => .ok []
  | v :: rest =>
    match ofMember? v with
    | .error e => .error e
    | .ok p =>
      match ofMembers rest with
      | .error e => .error e
      | .ok ps => .ok (p.toList ++ ps)

/-- The patterns of a collection of globs. -/
def compileCollection [Runtime] (v : Value) : Except CollectionError (List Pattern) :=
  match v with
  | .str s => .error (.single (quoted s))
  | .bytes bs => .error (.single (quotedBytes bs))
  | v =>
    match v.members? with
    | none => .error (.notACollection v)
    | some items => ofMembers items

end Pattern

end TabAudit
