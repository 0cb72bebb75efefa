import TabAudit.Value.Slots
import TabAudit.Value.Web
import TabAudit.Yaml.Literal
/-!
# The value of a YAML text

Each node has the value that its tag asks for. A mapping takes in the pairs of others under its
merge key; its own pairs count over those, and of several merged mappings the first counts.

A collection is empty at first and waits to be filled; when the collections that wait have been
filled, those that were met in them are. So of two faults the one in fewer collections counts, and a
collection may hold itself. Each node is given its value once, wherever it stands.
-/

namespace TabAudit.Yaml

/-- The making of values: the nodes, what has been made of them, the collections so far, and the
nodes and numbers of the collections that wait to be filled, the latest first. -/
structure Making where
  nodes : Array Node
  made : Array (Option Part)
  web : Array Content
  waiting : List (Nat × Nat)
  deriving Repr

namespace Making

/-- The start of making values of nodes. -/
def start (nodes : Array Node) : Making := ⟨nodes, Array.replicate nodes.size none, #[], []⟩

/-- The node of a number. -/
def node (m : Making) (place : Nat) : Node := m.nodes.getD place .nothing

/-- The state with another node of a number. -/
def setNode (m : Making) (place : Nat) (n : Node) : Making :=
  { m with nodes := m.nodes.setIfInBounds place n }

/-- The state with what a node has become. -/
def setMade (m : Making) (place : Nat) (part : Part) : Making :=
  { m with made := m.made.setIfInBounds place (some part) }

/-! ## Merged mappings -/

/-- The pairs of nodes that are mappings. -/
def pairs (m : Making) (place : Nat) : List (Nat × Nat) :=
  match m.node place with
  | .mapping _ pairs => pairs
  | _ => []

/-- The state with other pairs of a mapping. -/
def setPairs (m : Making) (place : Nat) (pairs : List (Nat × Nat)) : Making :=
  match m.node place with
  | .mapping tag _ => m.setNode place (.mapping tag pairs)
  | _ => m

/-- The state with the key of a mapping's value proper as a text. -/
def setText (m : Making) (place : Nat) : Making :=
  m.setNode place (match m.node place with
    | .scalar _ text => .scalar (.scalar .str) text
    | .sequence _ items => .sequence (.scalar .str) items
    | .mapping _ pairs => .mapping (.scalar .str) pairs)

/-- The number of merge keys in all mappings. -/
def mergeCount (nodes : Array Node) : Nat :=
  let isMerge (place : Nat) : Bool := (nodes.getD place .nothing).tag = .scalar .merge
  nodes.foldl (fun n node => match node with
    | .mapping _ pairs => n + pairs.countP fun (k, _) => isMerge k
    | _ => n) 0

mutual

/-- Puts the pairs that a mapping takes in in front of its own. A merge key is gone before what
stands under it is looked at, so `fuel` need not be greater than the number of merge keys. -/
def flatten (fuel : Nat) (m : Making) (place : Nat) : Except Fault Making :=
  flattenFrom fuel m place 0 [] (m.pairs place)
termination_by (fuel, 2, 0)

/-- The same for the pairs from an index on, with what was taken in before. -/
def flattenFrom (fuel : Nat) (m : Making) (place index : Nat) (taken : List (Nat × Nat)) :
    List (Nat × Nat) → Except Fault Making
  | [] => .ok (if taken.isEmpty then m else m.setPairs place (taken ++ m.pairs place))
  | (k, v) :: rest =>
    if (m.node k).tag = .scalar .merge then
      match fuel with
      | 0 => .error .tooDeep
      | fuel + 1 =>
        match takenFrom fuel (m.setPairs place ((m.pairs place).eraseIdx index)) v with
        | .error e => .error e
        | .ok (more, m) =>
          flattenFrom fuel m place index (taken ++ more) ((m.pairs place).drop index)
    else
      let m := if (m.node k).tag = .scalar .default then m.setText k else m
      flattenFrom fuel m place (index + 1) taken rest
termination_by rest => (fuel, 1, rest.length)

/-- The pairs that a node gives to a mapping under its merge key. -/
def takenFrom (fuel : Nat) (m : Making) (place : Nat) :
    Except Fault (List (Nat × Nat) × Making) :=
  match m.node place with
  | .mapping .. => (flatten fuel m place).map fun m => (m.pairs place, m)
  | .sequence _ items => takenFromAll fuel m items
  | .scalar .. => .error .malformed
termination_by (fuel, 4, 0)

/-- The pairs that several nodes give to a mapping, those of the first last. -/
def takenFromAll (fuel : Nat) (m : Making) : List Nat → Except Fault (List (Nat × Nat) × Making)
  | [] => .ok ([], m)
  | place :: rest =>
    match m.node place with
    | .mapping .. =>
      match flatten fuel m place with
      | .error e => .error e
      | .ok m =>
        (takenFromAll fuel m rest).map fun (more, after) => (more ++ m.pairs place, after)
    | _ => .error .malformed
termination_by rest => (fuel, 3, rest.length)

end

/-! ## Nodes -/

/-- The text of a scalar. A mapping has the text of its value proper. -/
def scalarText (m : Making) : Nat → Nat → Except Fault Text
  | 0, _ => .error .tooDeep
  | fuel + 1, place =>
    match m.node place with
    | .scalar _ text => .ok text
    | .sequence .. => .error .malformed
    | .mapping _ pairs =>
      match pairs.find? fun (k, _) => (m.node k).tag = .scalar .default with
      | some (_, v) => scalarText m fuel v
      | none => .error .malformed

/-- Whether a node is a scalar. -/
def isScalar (m : Making) (place : Nat) : Bool :=
  match m.node place with
  | .scalar .. => true
  | _ => false

/-- An empty collection, which is to be filled from a node. -/
def addWaiting (m : Making) (place : Nat) (empty : Content) : Part × Making :=
  let number := m.web.size
  (.collection number,
    { m with web := m.web.push empty, waiting := (place, number) :: m.waiting }.setMade place
      (.collection number))

/-- What becomes of a node: the value of a scalar, or a collection that waits. -/
def make (m : Making) (place : Nat) : Except Fault (Part × Making) :=
  match m.made.getD place none with
  | some part => .ok (part, m)
  | none =>
    let atom (v : Except Fault Value) : Except Fault (Part × Making) :=
      v.map fun v => (.whole v, m.setMade place (.whole v))
    match (m.node place).tag with
    | .scalar .merge => .error .malformed
    | .scalar .default => .error .malformed
    | .scalar .mark => .error .malformed
    | .scalar kind =>
      match m.scalarText (m.nodes.size + 1) place with
      | .error e => .error e
      | .ok text =>
        if kind = .timestamp && !m.isScalar place then .error .stampNotText
        else atom (readScalar place kind text)
    | .binary =>
      match m.scalarText (m.nodes.size + 1) place with
      | .error e => .error e
      | .ok text => atom (readBinary text)
    | .sequence => .ok (m.addWaiting place (.list []))
    | .orderedMap => .ok (m.addWaiting place (.list []))
    | .pairs => .ok (m.addWaiting place (.list []))
    | .mapping => .ok (m.addWaiting place (.dict []))
    | .set => .ok (m.addWaiting place (.set []))
    | .unknown => .error .malformed

/-! ## Collections -/

/-- What becomes of the items of a sequence. -/
def makeItems (m : Making) : List Nat → Except Fault (List Part × Making)
  | [] => .ok ([], m)
  | place :: rest =>
    match m.make place with
    | .error e => .error e
    | .ok (part, m) => (makeItems m rest).map fun (parts, m) => (part :: parts, m)

/-- What becomes of mappings of one pair each: rows of two. -/
def makeRows (m : Making) : List Nat → Except Fault (List Part × Making)
  | [] => .ok ([], m)
  | place :: rest =>
    match m.node place with
    | .mapping _ [(k, v)] =>
      match m.makeItems [k, v] with
      | .error e => .error e
      | .ok (row, m) =>
        let number := m.web.size
        (makeRows { m with web := m.web.push (.tuple row) } rest).map fun (rows, m) =>
          (.collection number :: rows, m)
    | _ => .error .malformed

/-- What becomes of the pairs of a mapping behind others. -/
def makePairs (m : Making) (done : List (Value × Part)) :
    List (Nat × Nat) → Except Fault (List (Value × Part) × Making)
  | [] => .ok (done, m)
  | (k, v) :: rest =>
    match m.make k with
    | .error e => .error e
    | .ok (.collection _, _) => .error .malformed
    | .ok (.whole key, m) =>
      match m.make v with
      | .error e => .error e
      | .ok (part, m) => makePairs m (Value.put key part done) rest

/-- What becomes of the pairs of a mapping and of those that it takes in. -/
def makeMapping (merges : Nat) (m : Making) (place : Nat) :
    Except Fault (List (Value × Part) × Making) :=
  match m.node place with
  | .mapping .. =>
    match m.flatten merges place with
    | .error e => .error e
    | .ok m => m.makePairs [] (m.pairs place)
  | _ => .error .malformed

/-- What a collection holds. `merges` is the number of merge keys at the start. -/
def content (merges : Nat) (m : Making) (place : Nat) : Except Fault (Content × Making) :=
  let rows (items : List Nat) : Except Fault (Content × Making) :=
    (m.makeRows items).map fun (rows, m) => (.list rows, m)
  match m.node place with
  | .sequence .sequence items => (m.makeItems items).map fun (parts, m) => (.list parts, m)
  | .sequence .orderedMap items => rows items
  | .sequence .pairs items => rows items
  | .mapping .mapping _ =>
    (makeMapping merges m place).map fun (pairs, m) => (.dict pairs, m)
  | .mapping .set _ =>
    (makeMapping merges m place).map fun (pairs, m) =>
      (.set (Slots.ofKeys (pairs.map Prod.fst)), m)
  | _ => .error .malformed

/-- Fills collections. -/
def fill (merges : Nat) (m : Making) : List (Nat × Nat) → Except Fault Making
  | [] => .ok m
  | (place, number) :: rest =>
    match content merges m place with
    | .error e => .error e
    | .ok (content, m) => fill merges { m with web := m.web.setIfInBounds number content } rest

/-- Fills the collections that wait, and those that are met in them. Each node waits once at most,
which bounds the number of rounds. -/
def fillAll (merges : Nat) : Nat → Making → Except Fault Making
  | 0, m => .ok m
  | fuel + 1, m =>
    if m.waiting.isEmpty then .ok m
    else
      match fill merges { m with waiting := [] } m.waiting.reverse with
      | .error e => .error e
      | .ok m => fillAll merges fuel m

end Making

/-- The value of a document. -/
def Document.value (d : Document) : Except Fault Value :=
  match (Making.start d.nodes).make d.root with
  | .error e => .error e
  | .ok (root, m) =>
    (Making.fillAll (Making.mergeCount d.nodes + 1) (d.nodes.size + 1) m).map fun m =>
      Value.ofPart m.web root

/-- The value of a text; a text with nothing in it has none. -/
def read (s : String) : Except Fault Value :=
  match Document.ofText? s with
  | .error e => .error e
  | .ok none => .ok .null
  | .ok (some d) => d.value

end TabAudit.Yaml
