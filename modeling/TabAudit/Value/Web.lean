import TabAudit.Value.Basic
/-!
# Collections that share parts

Collections are built one beside the other, and each names those that it holds by their numbers. So
one collection may be a part of several, or of itself. From them the value of a part is made: a tree
if there is an end to it, and otherwise one of the collections of a web.
-/

namespace TabAudit

/-- A part of a collection: a value that is whole in itself, or a collection by its number. -/
inductive Part where
  | whole (v : Value)
  | collection (place : Nat)
  deriving Repr

/-- What a collection holds. Members of sets and keys of mappings hold nothing themselves. -/
inductive Content where
  | list (items : List Part)
  | tuple (items : List Part)
  | set (members : List Value)
  | dict (pairs : List (Value × Part))
  deriving Repr, Inhabited

namespace Content

/-- The parts of a collection that may hold others. -/
def parts : Content → List Part
  | list items => items
  | tuple items => items
  | set _ => []
  | dict pairs => pairs.map Prod.snd

/-- The value of a collection, given those of its parts. -/
def value (part : Part → Value) : Content → Value
  | list items => .list (items.map part)
  | tuple items => .tuple (items.map part)
  | set members => .set members
  | dict pairs => .dict (pairs.map fun (k, p) => (k, part p))

end Content

/-- What is known about a collection. -/
inductive Standing where
  | unknown
  /-- Its parts are being looked at. -/
  | entered
  | tree (v : Value)
  /-- It holds itself, or a part that does. -/
  | endless
  deriving Repr, Inhabited

namespace Standing

/-- The value of a collection that is a tree. -/
def tree? : Standing → Option Value
  | tree v => some v
  | _ => none

/-- The value of a part, if it is a tree. -/
def partTree? (known : Array Standing) : Part → Option Value
  | .whole v => some v
  | .collection place => (known.getD place .unknown).tree?

/-- What is known after a look at a collection and all that it holds. `fuel` bounds the depth of
the collections within each other. -/
def explore (web : Array Content) : Nat → Nat → Array Standing → Array Standing
  | 0, _, known => known
  | fuel + 1, place, known =>
    match known[place]?, web[place]? with
    | some .unknown, some content =>
      let known := content.parts.foldl (fun known part => match part with
        | .whole _ => known
        | .collection inner => explore web fuel inner known) (known.setIfInBounds place .entered)
      known.setIfInBounds place <|
        if content.parts.all fun part => (partTree? known part).isSome then
          .tree (content.value fun part => (partTree? known part).getD .null)
        else .endless
    | _, _ => known

end Standing

namespace Value

/-- The value of a part among collections. -/
def ofPart (web : Array Content) : Part → Value
  | .whole v => v
  | .collection place =>
    let known := Standing.explore web (web.size + 1) place (Array.replicate web.size .unknown)
    match (known.getD place .unknown).tree? with
    | some v => v
    | none =>
      let isEndless (place : Nat) : Bool := match known.getD place .unknown with
        | .endless => true
        | _ => false
      let places := (List.range web.size).filter isEndless
      let part (p : Part) : Value := match p with
        | .whole v => v
        | .collection inner =>
          ((known.getD inner .unknown).tree?).getD (.member (places.idxOf inner))
      .endless (places.map fun place => (web.getD place (.list [])).value part) (places.idxOf place)

end Value

end TabAudit
