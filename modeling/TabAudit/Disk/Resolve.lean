import TabAudit.Disk.Lookup
/-!
# Paths without links

The name a path has without links is found piece by piece. A piece that leads nowhere is kept as it
is written, so a path need not exist. A link that is met again while it is being followed is part
of a loop: what has not been read by then is kept as it is written, and if that leads into the loop
again, the path has no such name.
-/

namespace TabAudit

namespace Disk

/-- The pieces of a text between its slashes. -/
def textPieces (s : String) : List String := (splitAtEach '/' s.toList).map String.ofList

end Disk

mutual

/-- How many pieces the links below a node can add to a path when each is followed once. -/
def Node.linkPieces : Node → Nat
  | .directory _ entries => linkPiecesIn entries
  | .link target => (Disk.textPieces target).length + 1
  | _ => 0

/-- The same for the entries of a directory. -/
def linkPiecesIn : List (String × Node) → Nat
  | [] => 0
  | (_, node) :: rest => node.linkPieces + linkPiecesIn rest

end

namespace Disk

/-- A text that is being read: the link that it belongs to, if it is none of a path's own, and the
pieces that are left of it. -/
structure Reading where
  link : Option (List String)
  pieces : List String
  deriving DecidableEq, Repr

/-- Names without `..`, each of which takes the name in front of it away. -/
def collapse (names : List String) : List String :=
  (names.foldl (fun done name => if name = ".." then done.drop 1 else name :: done) []).reverse

/-- The names that a path has if the rest of each text is kept as it is written. A rest that starts
with a slash starts at the root. -/
def keepRest (done : List String) (texts : List Reading) : List String :=
  let kept := texts.foldl (fun done text =>
    let names := text.pieces.filter (!staysPut ·)
    match text.pieces with
    | "" :: _ :: _ => names
    | _ => done ++ names) done
  collapse kept

/-- What is known about links: the names they lead to, once their texts have been read. -/
abbrev KnownLinks := List (List String × Option (List String))

/-- What is known once the text of a link has been read. -/
def KnownLinks.close (known : KnownLinks) (link : Option (List String)) (names : List String) :
    KnownLinks :=
  match link with
  | some link => (link, some names) :: known
  | none => known

/-- The names without links that texts lead to from `done`, the innermost text first. -/
def settle (root : Node) (known : KnownLinks) (done : List String) (fuel : Nat)
    (texts : List Reading) : List String :=
  match fuel, texts with
  | 0, texts => keepRest done texts
  | _, [] => done
  | fuel + 1, ⟨link, []⟩ :: texts => settle root (known.close link done) done fuel texts
  | fuel + 1, ⟨link, piece :: pieces⟩ :: texts =>
    let texts := ⟨link, pieces⟩ :: texts
    if staysPut piece then settle root known done fuel texts
    else if piece = ".." then settle root known done.dropLast fuel texts
    else
      let names := done ++ [piece]
      match walk root .entry linkLimit [] names with
      | .ok ⟨_, .link target⟩ =>
        match known.lookup names with
        | some (some names) => settle root known names fuel texts
        | some none => keepRest names texts
        | none =>
          settle root ((names, none) :: known) (if isAbsolute target then [] else done) fuel
            (⟨some names, textPieces target⟩ :: texts)
      | _ => settle root known names fuel texts

/-- Why a path has no name without links. -/
inductive ResolveError where
  | loop (path : String)
  | embeddedNul
  deriving DecidableEq, Repr

def ResolveError.message : ResolveError → String
  | .loop path => s!"Symlink loop from {quoted path}"
  | .embeddedNul => DiskError.embeddedNul.message

/-- The names from the root that a path has without links. -/
def resolve (d : Disk) (p : Path) : Except ResolveError (List String) :=
  if (p.write '/').toList.contains '\x00' then .error .embeddedNul
  else
    let start := if p.root = "" then d.here else []
    let fuel := p.names.length + d.root.linkPieces + 1
    let names := settle d.root [] start fuel [⟨none, p.names⟩]
    match d.findNames names with
    | .error (.refused .tooManyLinks path) => .error (.loop path)
    | _ => .ok names

end Disk

end TabAudit
