import TabAudit.Yaml.Kind
import TabAudit.Yaml.Layout
/-!
# The nodes of a YAML text

The tokens of a text make up scalars, sequences and mappings, each with a tag. Collections name the
nodes that they hold by their numbers, and an alias is the number of the node that its anchor names.
So a node may stand in several places, and a collection may hold itself.
-/

namespace TabAudit.Yaml

/-- What a node is said or seen to be. -/
inductive Tag where
  /-- A scalar of this kind. -/
  | scalar (kind : Kind)
  | sequence
  | mapping
  | binary
  | set
  | orderedMap
  | pairs
  /-- A tag that nothing is known about. -/
  | unknown
  deriving DecidableEq, Repr

/-- The stem of the tags that are known. -/
def tagStem : String := "tag:yaml.org,2002:"

/-- The tags that are known, behind their stem. -/
def knownTags : List (String × Tag) :=
  [("null", .scalar .null), ("bool", .scalar .bool), ("int", .scalar .int),
   ("float", .scalar .float), ("timestamp", .scalar .timestamp), ("str", .scalar .str),
   ("merge", .scalar .merge), ("value", .scalar .default), ("binary", .binary),
   ("seq", .sequence), ("map", .mapping), ("set", .set), ("omap", .orderedMap), ("pairs", .pairs)]

/-- The tag of a full name. -/
def Tag.ofName (name : String) : Tag :=
  (knownTags.findSome? fun (short, tag) =>
    if tagStem ++ short = name then some tag else none).getD .unknown

/-- A scalar, or a collection of nodes by their numbers. -/
inductive Node where
  | scalar (tag : Tag) (text : Text)
  | sequence (tag : Tag) (items : List Nat)
  | mapping (tag : Tag) (pairs : List (Nat × Nat))
  deriving Repr

/-- A scalar with nothing in it. -/
def Node.nothing : Node := .scalar (.scalar .null) ""

instance : Inhabited Node := ⟨.nothing⟩

/-- The tag of a node. -/
def Node.tag : Node → Tag
  | scalar tag _ => tag
  | sequence tag _ => tag
  | mapping tag _ => tag

/-- The nodes of a text, and the number of the one that all others belong to. -/
structure Document where
  nodes : Array Node
  root : Nat
  deriving Repr

/-- The number of collections within each other from which on a text is too deep. -/
def nestingLimit : Nat := 484

/-- The state of reading nodes: the tokens left, what handles of tags stand for, the nodes that
anchors name, the latest first, the nodes so far, and the number of collections around. -/
structure Parse where
  tokens : List Token
  fault : Option Fault
  handles : List (String × String)
  anchors : List (String × Nat)
  nodes : Array Node
  depth : Nat
  deriving Repr

namespace Parse

/-- The handles that every document knows. -/
def usualHandles : List (String × String) := [("!", "!"), ("!!", tagStem)]

/-- The fault of tokens that do not fit, or the one that ended them. -/
def stop {α : Type} (p : Parse) : Except Fault α :=
  match p.tokens, p.fault with
  | [], some fault => .error fault
  | _, _ => .error .malformed

/-- The state behind the next token. -/
def drop (p : Parse) : Parse := { p with tokens := p.tokens.tail }

/-- Whether the next token is one of some. -/
def sees (p : Parse) (ts : List Token) : Bool :=
  match p.tokens with
  | t :: _ => ts.contains t
  | [] => false

/-- What stands in front of a node: its anchor and its tag. -/
structure Properties where
  anchor : Option String
  tag : Option TagText
  deriving DecidableEq, Repr

/-- The properties in front of a node, in either order. A token has to follow the first of them. -/
def properties (p : Parse) : Except Fault (Properties × Parse) :=
  match p.tokens with
  | [.anchor _] => p.drop.stop
  | [.tag _] => p.drop.stop
  | .anchor a :: .tag t :: rest => .ok (⟨some a, some t⟩, { p with tokens := rest })
  | .tag t :: .anchor a :: rest => .ok (⟨some a, some t⟩, { p with tokens := rest })
  | .anchor a :: rest => .ok (⟨some a, none⟩, { p with tokens := rest })
  | .tag t :: rest => .ok (⟨none, some t⟩, { p with tokens := rest })
  | _ => .ok (⟨none, none⟩, p)

/-- The full name of a tag, or nothing for one that says that there is none. -/
def tagName (p : Parse) (t : TagText) : Except Fault (Option String) :=
  match t.handle with
  | none => .ok (if t.suffix = "!" then none else some t.suffix)
  | some handle =>
    match p.handles.lookup handle with
    | none => .error .malformed
    | some stem => .ok (if stem ++ t.suffix = "!" then none else some (stem ++ t.suffix))

/-- The state with one more node, and its number. -/
def add (p : Parse) (n : Node) : Nat × Parse :=
  (p.nodes.size, { p with nodes := p.nodes.push n })

/-- The state with an anchor that names a node. -/
def name (p : Parse) (anchor : Option String) (place : Nat) : Parse :=
  match anchor with
  | some a => { p with anchors := (a, place) :: p.anchors }
  | none => p

/-- A node that is a scalar. -/
def scalar (p : Parse) (anchor : Option String) (tag : Tag) (text : Text) : Nat × Parse :=
  let (place, p) := p.add (.scalar tag text)
  (place, p.name anchor place)

/-- A node that is a collection, which its own anchor already names while it is read. -/
def collection {α : Type} (p : Parse) (anchor : Option String)
    (read : Parse → Except Fault (α × Parse)) (make : α → Node) : Except Fault (Nat × Parse) :=
  if nestingLimit ≤ p.depth then .error .tooDeep
  else
    let (place, inside) := p.add .nothing
    match read { inside.name anchor place with depth := p.depth + 1 } with
    | .error e => .error e
    | .ok (content, q) =>
      .ok (place, { q with nodes := q.nodes.setIfInBounds place (make content), depth := p.depth })

mutual

/-- The next node. In a block it may be a collection without brackets, and as a value of a mapping
also a sequence that is not indented. `fuel` bounds the depth of the calls. -/
def node (block bare : Bool) : Nat → Parse → Except Fault (Nat × Parse)
  | 0, p => p.stop
  | fuel + 1, p =>
    match p.tokens with
    | .alias a :: _ =>
      match p.anchors.lookup a with
      | some place => .ok (place, p.drop)
      | none => .error .malformed
    | _ =>
      match p.properties with
      | .error e => .error e
      | .ok (props, p) =>
        match props.tag.mapM p.tagName with
        | .error e => .error e
        | .ok name =>
          if props.anchor.any fun a => (p.anchors.lookup a).isSome then
            match p.tokens with
            | [] => p.stop
            | _ => .error .malformed
          else
            let tagged (usual : Tag) := (name.join.map Tag.ofName).getD usual
            let sequence (read : Parse → Except Fault (List Nat × Parse)) :=
              p.collection props.anchor read (.sequence (tagged .sequence))
            let mapping (read : Parse → Except Fault (List (Nat × Nat) × Parse)) :=
              p.collection props.anchor read (.mapping (tagged .mapping))
            match p.tokens with
            | .scalar text plain :: _ =>
              let usual := if name = some none || (plain && name = none) then
                Kind.ofPlain text else .str
              .ok (p.drop.scalar props.anchor (tagged (.scalar usual)) text)
            | .flowSequenceStart :: _ => sequence fun p => flowItems true fuel p.drop
            | .flowMappingStart :: _ => mapping fun p => flowPairs true fuel p.drop
            | t :: _ =>
              if bare && t = .blockEntry then sequence fun p => bareItems fuel p
              else if block && t = .blockSequenceStart then
                sequence fun p => blockItems fuel p.drop
              else if block && t = .blockMappingStart then
                mapping fun p => blockPairs fuel p.drop
              else if props.anchor.isSome || props.tag.isSome then
                let usual : Kind := if name.join.isNone then .null else .str
                .ok (p.scalar props.anchor (tagged (.scalar usual)) "")
              else .error .malformed
            | [] => p.stop

/-- The next node, or nothing where one of some tokens follows. -/
def nodeUnless (ts : List Token) (block bare : Bool) :
    Nat → Parse → Except Fault (Nat × Parse)
  | 0, p => p.stop
  | fuel + 1, p =>
    if p.tokens.isEmpty then p.stop
    else if p.sees ts then .ok (p.add .nothing)
    else node block bare fuel p

/-- The items of an indented sequence. -/
def blockItems : Nat → Parse → Except Fault (List Nat × Parse)
  | 0, p => p.stop
  | fuel + 1, p =>
    match p.tokens with
    | .blockEntry :: _ =>
      match nodeUnless [.blockEntry, .blockEnd] true false fuel p.drop with
      | .error e => .error e
      | .ok (n, p) => (blockItems fuel p).map fun (more, p) => (n :: more, p)
    | .blockEnd :: _ => .ok ([], p.drop)
    | _ => p.stop

/-- The items of a sequence that is not indented. -/
def bareItems : Nat → Parse → Except Fault (List Nat × Parse)
  | 0, p => p.stop
  | fuel + 1, p =>
    match p.tokens with
    | .blockEntry :: _ =>
      match nodeUnless [.blockEntry, .key, .value, .blockEnd] true false fuel p.drop with
      | .error e => .error e
      | .ok (n, p) => (bareItems fuel p).map fun (more, p) => (n :: more, p)
    | [] => p.stop
    | _ => .ok ([], p)

/-- The value of a key in an indented mapping. -/
def blockValue : Nat → Parse → Except Fault (Nat × Parse)
  | 0, p => p.stop
  | fuel + 1, p =>
    match p.tokens with
    | .value :: _ => nodeUnless [.key, .value, .blockEnd] true true fuel p.drop
    | [] => p.stop
    | _ => .ok (p.add .nothing)

/-- The pairs of an indented mapping. -/
def blockPairs : Nat → Parse → Except Fault (List (Nat × Nat) × Parse)
  | 0, p => p.stop
  | fuel + 1, p =>
    match p.tokens with
    | .key :: _ =>
      match nodeUnless [.key, .value, .blockEnd] true true fuel p.drop with
      | .error e => .error e
      | .ok (k, p) =>
        match blockValue fuel p with
        | .error e => .error e
        | .ok (v, p) => (blockPairs fuel p).map fun (more, p) => ((k, v) :: more, p)
    | .blockEnd :: _ => .ok ([], p.drop)
    | _ => p.stop

/-- The value of a key between brackets that close with one of some tokens. -/
def flowValue (ends : List Token) : Nat → Parse → Except Fault (Nat × Parse)
  | 0, p => p.stop
  | fuel + 1, p =>
    match p.tokens with
    | .value :: _ => nodeUnless ends false false fuel p.drop
    | [] => p.stop
    | _ => .ok (p.add .nothing)

/-- The items of a sequence between brackets. A key in it makes up a mapping of its own. -/
def flowItems (first : Bool) : Nat → Parse → Except Fault (List Nat × Parse)
  | 0, p => p.stop
  | fuel + 1, p =>
    let entries (p : Parse) : Except Fault (List Nat × Parse) :=
      match p.tokens with
      | .flowSequenceEnd :: _ => .ok ([], p.drop)
      | .key :: _ =>
        match p.collection none (flowPair fuel) (.mapping .mapping) with
        | .error e => .error e
        | .ok (n, p) => (flowItems false fuel p).map fun (more, p) => (n :: more, p)
      | _ =>
        match node false false fuel p with
        | .error e => .error e
        | .ok (n, p) => (flowItems false fuel p).map fun (more, p) => (n :: more, p)
    match p.tokens with
    | .flowSequenceEnd :: _ => .ok ([], p.drop)
    | t :: _ =>
      if first then entries p
      else if t = .flowEntry then entries p.drop
      else .error .malformed
    | [] => p.stop

/-- The pair of a mapping that is an item of a sequence between brackets. -/
def flowPair : Nat → Parse → Except Fault (List (Nat × Nat) × Parse)
  | 0, p => p.stop
  | fuel + 1, p =>
    match nodeUnless [.value, .flowEntry, .flowSequenceEnd] false false fuel p.drop with
    | .error e => .error e
    | .ok (k, p) =>
      (flowValue [.flowEntry, .flowSequenceEnd] fuel p).map fun (v, p) => ([(k, v)], p)

/-- The pairs of a mapping between brackets. -/
def flowPairs (first : Bool) : Nat → Parse → Except Fault (List (Nat × Nat) × Parse)
  | 0, p => p.stop
  | fuel + 1, p =>
    let entries (p : Parse) : Except Fault (List (Nat × Nat) × Parse) :=
      match p.tokens with
      | .flowMappingEnd :: _ => .ok ([], p.drop)
      | .key :: _ =>
        match nodeUnless [.value, .flowEntry, .flowMappingEnd] false false fuel p.drop with
        | .error e => .error e
        | .ok (k, p) =>
          match flowValue [.flowEntry, .flowMappingEnd] fuel p with
          | .error e => .error e
          | .ok (v, p) => (flowPairs false fuel p).map fun (more, p) => ((k, v) :: more, p)
      | _ =>
        match node false false fuel p with
        | .error e => .error e
        | .ok (n, p) =>
          let (v, p) := p.add .nothing
          (flowPairs false fuel p).map fun (more, p) => ((n, v) :: more, p)
    match p.tokens with
    | .flowMappingEnd :: _ => .ok ([], p.drop)
    | t :: _ =>
      if first then entries p
      else if t = .flowEntry then entries p.drop
      else .error .malformed
    | [] => p.stop

end

/-- Reads the directives in front of a document. -/
def directives (p : Parse) (version : Bool) (handles : List (String × String)) :
    List Token → Except Fault Parse
  | .version major :: rest =>
    if version || major ≠ 1 then .error .malformed else directives p true handles rest
  | .handle name stem :: rest =>
    if (handles.lookup name).isSome then .error .malformed
    else directives p version ((name, stem) :: handles) rest
  | .directive :: rest => directives p version handles rest
  | rest => .ok { p with tokens := rest, handles := handles ++ usualHandles }

/-- Whether the text of a document ends here, and nothing but its end follows. A further document
is refused once its directives have been read. -/
def finish (p : Parse) (root : Option Nat) : Except Fault (Option Document) :=
  match p.tokens.dropWhile (· = .documentEnd) with
  | [.streamEnd] => .ok (root.map fun root => ⟨p.nodes, root⟩)
  | rest =>
    match directives p false [] rest with
    | .error e => .error e
    | .ok p => p.stop

/-- The only document of a text, or nothing if there is none. -/
def document (p : Parse) (fuel : Nat) : Except Fault (Option Document) :=
  let bare := { p with handles := usualHandles }
  match p.tokens with
  | [] => p.stop
  | t :: _ =>
    let explicit := match t with
      | .version _ => true
      | .handle .. => true
      | .directive => true
      | .documentStart => true
      | _ => false
    if t = .streamEnd then .ok none
    else if explicit then
      match directives p false [] p.tokens with
      | .error e => .error e
      | .ok p =>
        match p.tokens with
        | .documentStart :: _ =>
          let p := p.drop
          let stops := match p.tokens with
            | .version _ :: _ => true
            | .handle .. :: _ => true
            | .directive :: _ => true
            | .documentStart :: _ => true
            | .documentEnd :: _ => true
            | .streamEnd :: _ => true
            | _ => false
          if stops then
            let (root, p) := p.add .nothing
            p.finish (some root)
          else
            match node true false fuel p with
            | .error e => .error e
            | .ok (root, p) => p.finish (some root)
        | _ => p.stop
    else
      match node true false fuel bare with
      | .error e => .error e
      | .ok (root, p) => p.finish (some root)

end Parse

/-- The nodes of a text, or nothing if the text is empty. -/
def Document.ofText? (s : String) : Except Fault (Option Document) :=
  let (ts, fault) := Yaml.tokens s.toList
  Parse.document ⟨ts, fault, [], [], #[], 0⟩ (8 * ts.length + 8)

end TabAudit.Yaml
