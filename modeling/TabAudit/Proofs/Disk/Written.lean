import TabAudit.Disk.Change
import TabAudit.Proofs.Disk.Tree

/-!
# What a change leaves as it was

A file is written, and a directory is made, where nothing stands yet or something that no walk goes
through. So a walk goes on as before from every other place, and the path that a file was written to
leads to it. Links on the way lead to the same places, and the current directory stays.
-/

namespace TabAudit

/-- How a walk goes on from a node. -/
inductive Passage where
  | inside
  | along (target : String)
  | ends
  | barred (cause : DiskCause)
  deriving DecidableEq, Repr

/-- Whether a walk can come to something that it goes on from so. A link is followed instead. -/
def Passage.isReached : Passage → Bool
  | inside | ends => true
  | along _ | barred _ => false

namespace Node

variable {n root new node parent : Node} {name other : String} {place way : List String}

/-- How a walk goes on from a node. -/
def passage : Node → Passage
  | .directory .. => .inside
  | .link target => .along target
  | .unasked cause => .barred cause
  | _ => .ends

theorem isDirectory_iff : n.isDirectory = true ↔ n.passage = .inside := by
  cases n <;> simp [isDirectory, passage]

theorem isDirectory_of_child? (h : n.child? name = some node) : n.isDirectory = true := by
  cases n with
  | directory => rfl
  | _ => simp [child?, entries] at h

theorem passage_eq_along {target : String} : n.passage = .along target ↔ n = .link target := by
  cases n <;> simp [passage]

theorem isReached_passage (link : ∀ target, n ≠ .link target)
    (asked : ∀ cause, n ≠ .unasked cause) : n.passage.isReached = true := by
  cases n with
  | link target => exact absurd rfl (link target)
  | unasked cause => exact absurd rfl (asked cause)
  | _ => rfl

theorem ends_of_leaf (directory : n.isDirectory = false) (reached : n.passage.isReached = true) :
    n.passage = .ends := by
  cases n with
  | directory => cases directory
  | link | unasked => cases reached
  | _ => rfl

/-- A directory stands below directories only. -/
theorem isDirectory_of_at? (there : n.at? place = some node) (directory : node.isDirectory = true) :
    n.isDirectory = true := by
  cases place with
  | nil =>
    cases there
    exact directory
  | cons name rest =>
    obtain ⟨child, found, -⟩ := child_of_at? there
    exact isDirectory_of_child? found

/-! ## One entry -/

theorem passage_setEntry : (n.setEntry name new).passage = n.passage := by
  unfold setEntry
  split
  · split <;> rfl
  · rfl

theorem lookup_replaced (entries : List (String × Node)) :
    (entries.map fun e => if e.1 = name then (name, new) else e).lookup other =
      if other = name then (entries.lookup name).map fun _ => new else entries.lookup other := by
  induction entries with
  | nil => simp
  | cons e rest ih =>
    rw [List.map_cons, List.lookup_cons, ih, List.lookup_cons, List.lookup_cons]
    by_cases same : other = name <;> by_cases here : e.1 = name
    · simp [same, here]
    · have apart : (name == e.1) = false := by simpa using Ne.symm here
      simp [same, here, apart]
    · have apart : (other == name) = false := by simpa using same
      simp [same, here, apart]
    · simp [same, here]

theorem child?_setEntry (directory : n.isDirectory = true) :
    (n.setEntry name new).child? other = if other = name then some new else n.child? other := by
  cases n with
  | directory refusal entries =>
    simp only [setEntry, child?, Node.entries]
    cases there : entries.lookup name with
    | some old => simp [lookup_replaced, there]
    | none =>
      simp only [Option.isSome_none, Bool.false_eq_true, if_false, List.lookup_append]
      by_cases same : other = name
      · subst same
        simp [there]
      · have apart : (other == name) = false := by simpa using same
        simp [same, apart, List.lookup_cons]
  | _ => cases directory

/-! ## A change at a place -/

/-- Whether a node can be set at a place: it is an entry of a directory, and nothing that a walk
goes through stands there. -/
def Room (root : Node) (place : List String) : Prop :=
  ∃ way name parent, place = way ++ [name] ∧ root.at? way = some parent ∧
    parent.isDirectory = true ∧ ∀ old, root.at? place = some old → old.passage = .ends

/-- Whether a walk goes on in another tree from every place as it does in this one. -/
def Keeps (root after : Node) : Prop :=
  ∀ place node, root.at? place = some node →
    ∃ kept, after.at? place = some kept ∧ kept.passage = node.passage

theorem Keeps.directory {after : Node} (keeps : root.Keeps after)
    (there : root.at? place = some node) (directory : node.isDirectory = true) :
    ∃ kept, after.at? place = some kept ∧ kept.isDirectory = true := by
  obtain ⟨kept, found, same⟩ := keeps place node there
  exact ⟨kept, found, isDirectory_iff.mpr (same.trans (isDirectory_iff.mp directory))⟩

theorem set_cons (h : n.child? name = some node) (rest : List String) :
    n.set new (name :: rest) = n.setEntry name (node.set new rest) := by
  rw [set, h]

theorem set_single : n.set new [name] = n.setEntry name new := by
  rw [set]
  cases n.child? name <;> rfl

theorem at?_set_self (there : root.at? way = some parent) (directory : parent.isDirectory = true) :
    (root.set new (way ++ [name])).at? (way ++ [name]) = some new := by
  induction way generalizing root with
  | nil =>
    cases there
    rw [List.nil_append, set_single, at?_single, child?_setEntry directory, if_pos rfl]
  | cons first way ih =>
    obtain ⟨child, found, below⟩ := child_of_at? there
    have entry (new : Node) : (root.setEntry first new).child? first = some new := by
      rw [child?_setEntry (isDirectory_of_child? found), if_pos rfl]
    rw [List.cons_append, set_cons found, at?_cons (entry _)]
    exact ih below

/-- What is set where there is room stands there. -/
theorem Room.at?_set (room : root.Room place) : (root.set new place).at? place = some new := by
  obtain ⟨way, name, parent, rfl, there, directory, -⟩ := room
  exact at?_set_self there directory

theorem keeps_setEntry (directory : root.isDirectory = true)
    (entry : ∀ old, root.child? name = some old → old.Keeps new) :
    root.Keeps (root.setEntry name new) := by
  intro place node there
  cases place with
  | nil =>
    cases there
    exact ⟨_, rfl, passage_setEntry⟩
  | cons other rest =>
    obtain ⟨child, found, below⟩ := child_of_at? there
    by_cases same : other = name
    · subst same
      obtain ⟨kept, later, passage⟩ := entry child found rest node below
      refine ⟨kept, (at?_cons ?_ rest).trans later, passage⟩
      rw [child?_setEntry directory, if_pos rfl]
    · refine ⟨node, (at?_cons ?_ rest).trans below, rfl⟩
      rw [child?_setEntry directory, if_neg same, found]

/-- What a walk ends at holds nothing, so another such thing keeps what it holds. -/
theorem keeps_of_ends {old : Node} (ends : old.passage = .ends) (last : new.passage = .ends) :
    old.Keeps new := by
  intro place node there
  obtain ⟨rfl, rfl⟩ := at?_leaf (by cases old <;> first | rfl | cases ends) there
  exact ⟨new, rfl, last.trans ends.symm⟩

theorem keeps_set (there : root.at? way = some parent) (directory : parent.isDirectory = true)
    (entry : ∀ old, root.at? (way ++ [name]) = some old → old.Keeps new) :
    root.Keeps (root.set new (way ++ [name])) := by
  induction way generalizing root with
  | nil =>
    cases there
    rw [List.nil_append, set_single]
    exact keeps_setEntry directory fun old found => entry old ((at?_single _ name).trans found)
  | cons first way ih =>
    obtain ⟨child, found, below⟩ := child_of_at? there
    rw [List.cons_append, set_cons found]
    refine keeps_setEntry (isDirectory_of_child? found) fun old same => ?_
    cases found.symm.trans same
    exact ih below fun old inside => entry old ((at?_cons found _).trans inside)

/-- A file that is set where there is room keeps every other place. -/
theorem Room.keeps_file (room : root.Room place) (ends : new.passage = .ends) :
    root.Keeps (root.set new place) := by
  obtain ⟨way, name, parent, rfl, there, directory, free⟩ := room
  exact keeps_set there directory fun old found => keeps_of_ends (free old found) ends

end Node

namespace Disk

open Node

variable {root after file : Node} {trail other : Trail} {found : Located} {todo : List String}

/-! ## Trails that stand -/

/-- Whether a trail goes through what stands in a tree. -/
def Trail.Stands (root : Node) (trail : Trail) : Prop :=
  ∀ k, root.at? (Trail.names (trail.drop k)) = some (Trail.node root (trail.drop k))

theorem Trail.stands_nil : Trail.Stands root [] := fun k => by
  rw [List.drop_nil]
  rfl

theorem Trail.Stands.here (h : trail.Stands root) :
    root.at? trail.names = some (trail.node root) := h 0

theorem Trail.Stands.drop (h : trail.Stands root) (n : Nat) : Trail.Stands root (trail.drop n) :=
  fun k => by simpa [List.drop_drop] using h (n + k)

theorem Trail.names_cons (name : String) (node : Node) :
    Trail.names ((name, node) :: trail) = trail.names ++ [name] := by
  simp [Trail.names]

theorem Trail.names_drop (k : Nat) :
    Trail.names (trail.drop k) = trail.names.take (trail.names.length - k) := by
  simp [Trail.names, List.map_drop, List.reverse_drop]

theorem Trail.Stands.cons {name : String} {node : Node} (h : trail.Stands root)
    (found : (trail.node root).child? name = some node) :
    Trail.Stands root ((name, node) :: trail)
  | 0 => by
    rw [List.drop_zero, Trail.names_cons]
    exact at?_snoc h.here found
  | k + 1 => h k

theorem Trail.Stands.trailTo {n : Node} {names : List String} (h : trail.Stands root)
    (same : trail.node root = n) : Trail.Stands root (trailTo n trail names) := by
  induction names generalizing n trail with
  | nil => exact h
  | cons name rest ih =>
    unfold Disk.trailTo
    split
    · rename_i child found
      exact ih (h.cons (same ▸ found)) rfl
    · exact h

theorem names_trailTo {n node : Node} {names : List String} (there : n.at? names = some node) :
    Trail.names (trailTo n trail names) = trail.names ++ names := by
  induction names generalizing n trail with
  | nil => simp [trailTo]
  | cons name rest ih =>
    obtain ⟨child, found, below⟩ := child_of_at? there
    simp only [trailTo, found]
    rw [ih below, Trail.names_cons, List.append_assoc, List.singleton_append]

theorem reached_trailTo {n node : Node} {names : List String} (there : n.at? names = some node)
    (directory : node.isDirectory = true)
    (reached : ∀ e ∈ trail, e.2.passage.isReached = true) :
    ∀ e ∈ trailTo n trail names, e.2.passage.isReached = true := by
  induction names generalizing n trail with
  | nil => exact reached
  | cons name rest ih =>
    obtain ⟨child, found, below⟩ := child_of_at? there
    have inside := isDirectory_of_at? below directory
    simp only [trailTo, found]
    refine ih below (List.forall_mem_cons.mpr ⟨?_, reached⟩)
    rw [isDirectory_iff.mp inside]
    rfl

/-! ## The current directory -/

/-- Whether the current directory is there. -/
def Stands (d : Disk) : Prop :=
  ∃ node, d.root.at? d.here = some node ∧ node.isDirectory = true

theorem Stands.keeps {d d' : Disk} (h : d.Stands) (keeps : d.root.Keeps d'.root)
    (here : d'.here = d.here) : d'.Stands := by
  obtain ⟨node, there, directory⟩ := h
  unfold Stands
  rw [here]
  exact keeps.directory there directory

theorem startOf_stands (d : Disk) (s : String) : (d.startOf s).Stands d.root := by
  unfold startOf
  split
  · exact Trail.stands_nil
  · exact Trail.stands_nil.trailTo rfl

theorem Stands.names_startOf {d : Disk} (h : d.Stands) (s : String) :
    (d.startOf s).names = if isAbsolute s then [] else d.here := by
  obtain ⟨node, there, -⟩ := h
  unfold startOf
  split
  · rfl
  · exact names_trailTo there

theorem Stands.reached_startOf {d : Disk} (h : d.Stands) (s : String) :
    ∀ e ∈ d.startOf s, e.2.passage.isReached = true := by
  obtain ⟨node, there, directory⟩ := h
  unfold startOf
  split
  · simp
  · exact reached_trailTo there directory (by simp)

/-! ## Walks -/

/-- Two trails through two trees that have the same names. -/
structure Trail.Beside (root after : Node) (trail other : Trail) : Prop where
  stands : trail.Stands root
  stands' : other.Stands after
  names : other.names = trail.names

namespace Trail.Beside

variable (h : trail.Beside root after other)

include h

theorem drop (k : Nat) : Trail.Beside root after (trail.drop k) (other.drop k) :=
  ⟨h.stands.drop k, h.stands'.drop k, by rw [names_drop, names_drop, h.names]⟩

theorem passage (keeps : root.Keeps after) :
    (other.node after).passage = (trail.node root).passage := by
  obtain ⟨kept, found, passage⟩ := keeps _ _ h.stands.here
  rw [← h.names, h.stands'.here] at found
  cases found
  exact passage

theorem isDirectory (keeps : root.Keeps after) (directory : (trail.node root).isDirectory = true) :
    (other.node after).isDirectory = true :=
  isDirectory_iff.mpr ((h.passage keeps).trans (isDirectory_iff.mp directory))

/-- An entry behind one trail has one behind the other beside it. -/
theorem child (keeps : root.Keeps after) {name : String} {node : Node}
    (found : (trail.node root).child? name = some node) :
    ∃ kept, (other.node after).child? name = some kept ∧ kept.passage = node.passage ∧
      Trail.Beside root after ((name, node) :: trail) ((name, kept) :: other) := by
  obtain ⟨kept, there, passage⟩ := keeps _ _ (at?_snoc h.stands.here found)
  obtain ⟨parent, above, entry⟩ := parent_of_at? there
  rw [← h.names, h.stands'.here] at above
  cases above
  exact ⟨kept, entry, passage, h.stands.cons found, h.stands'.cons entry,
    by rw [names_cons, names_cons, h.names]⟩

end Trail.Beside

section Step

variable {links : Nat} {step : String} {rest : List String}
  (directory : ¬(!(trail.node root).isDirectory) = true) (moves : ¬staysPut step = true)
  (down : ¬step = "..") (short : ¬nameLimit ≤ step.utf8ByteSize)

include directory moves down short

theorem walk_inside {node : Node} (found : (trail.node root).child? step = some node)
    (reached : node.passage.isReached = true) :
    walk root .target links trail (step :: rest) =
      walk root .target links ((step, node) :: trail) rest := by
  rw [walk, if_neg directory, if_neg moves, if_neg down, if_neg (by simp), if_neg short]
  split
  · rename_i nothing
    cases found.symm.trans nothing
  · rename_i target link
    cases found.symm.trans link
    cases reached
  · rename_i cause unasked
    cases found.symm.trans unasked
    cases reached
  · rename_i other there
    cases found.symm.trans there
    rfl

theorem walk_along {target : String} (found : (trail.node root).child? step = some (.link target)) :
    walk root .target (links + 1) trail (step :: rest) =
      walk root .target links (if isAbsolute target then [] else trail)
        (textSteps target ++ rest) := by
  rw [walk, if_neg directory, if_neg moves, if_neg down, if_neg (by simp), if_neg short, found]
  simp

end Step

/-- A walk to the place of a file that is written there finds the file. -/
theorem walk_written {links : Nat} (keeps : root.Keeps after) (ends : file.passage = .ends)
    (beside : trail.Beside root after other) (h : walk root .file links trail todo = .ok found)
    (there : after.at? found.names = some file) :
    walk after .target links other todo = .ok ⟨found.names, file⟩ := by
  have still {way way' : Trail} (beside : way.Beside root after way')
      (directory : ¬(!(way.node root).isDirectory) = true) :
      ¬(!(way'.node after).isDirectory) = true := by
    simpa using beside.isDirectory keeps (by simpa using directory)
  -- The walk before the change is followed, with the trail after the change beside its own.
  generalize meant : Aim.file = aim at h
  fun_induction walk root aim links trail todo generalizing other with
  | case1 links trail =>
    -- Something stood there already.
    cases h
    rw [← beside.names] at there ⊢
    cases beside.stands'.here.symm.trans there
    rw [walk]
  | case3 links trail step rest directory stays ih =>
    rw [walk, if_neg (still beside directory), if_pos stays]
    exact ih beside h
  | case4 links trail rest directory moves ih =>
    rw [walk, if_neg (still beside directory), if_neg moves, if_pos rfl]
    exact ih (beside.drop 1) h
  | case7 links trail step rest directory moves down more short nothing last =>
    -- Nothing stood there: the walk comes to an entry that is new.
    cases h
    obtain rfl : rest = [] := by simp_all
    rw [Trail.names_cons, ← beside.names] at there ⊢
    obtain ⟨parent, above, entry⟩ := parent_of_at? there
    cases beside.stands'.here.symm.trans above
    have reached : file.passage.isReached = true := by rw [ends]; rfl
    rw [walk_inside (still beside directory) moves down short entry reached, walk,
      Trail.names_cons]
    rfl
  | case11 trail step rest directory moves down more short target entry further links ih =>
    obtain ⟨kept, found', passage, -⟩ := beside.child keeps entry
    cases passage_eq_along.mp passage
    rw [walk_along (still beside directory) moves down short found']
    refine ih ?_ h
    split
    · exact ⟨Trail.stands_nil, Trail.stands_nil, rfl⟩
    · exact beside
  | case13 links trail step rest directory moves down more short child link asked entry ih =>
    obtain ⟨kept, found', passage, beside'⟩ := beside.child keeps entry
    have reached : kept.passage.isReached = true := by
      rw [passage]
      exact isReached_passage link asked
    rw [walk_inside (still beside directory) moves down short found' reached]
    exact ih beside' h
  | _ => simp_all

/-- A walk for the place of a file ends where there is room for it, unless that is a directory. -/
theorem room_of_walk {links : Nat} (top : root.isDirectory = true) (stands : trail.Stands root)
    (reached : ∀ e ∈ trail, e.2.passage.isReached = true)
    (h : walk root .file links trail todo = .ok found)
    (leaf : found.node.isDirectory = false) : root.Room found.names := by
  generalize meant : Aim.file = aim at h
  fun_induction walk root aim links trail todo with
  | case1 links trail =>
    cases h
    cases trail with
    | nil => cases top.symm.trans leaf
    | cons e rest =>
      obtain ⟨name, node⟩ := e
      have there := stands.here
      rw [Trail.names_cons] at there ⊢
      obtain ⟨parent, above, entry⟩ := parent_of_at? there
      refine ⟨_, name, parent, rfl, above, isDirectory_of_child? entry, fun old found => ?_⟩
      -- It is no link either: a walk for a file follows links at the end of its way too.
      cases there.symm.trans found
      exact ends_of_leaf leaf (reached (name, node) (by simp))
  | case3 links trail step rest directory stays ih => exact ih stands reached h
  | case4 links trail rest directory moves ih =>
    exact ih (stands.drop 1) (fun e member => reached e (List.mem_of_mem_drop member)) h
  | case7 links trail step rest directory moves down more short nothing last =>
    cases h
    rw [Trail.names_cons]
    refine ⟨_, step, _, rfl, stands.here, by simpa using directory, fun old found => ?_⟩
    obtain ⟨parent, above, entry⟩ := parent_of_at? found
    cases stands.here.symm.trans above
    cases nothing.symm.trans entry
  | case11 trail step rest directory moves down more short target entry further links ih =>
    refine ih ?_ ?_ h
    · split
      · exact Trail.stands_nil
      · exact stands
    · split
      · simp
      · exact reached
  | case13 links trail step rest directory moves down more short child link asked entry ih =>
    exact ih (stands.cons entry)
      (List.forall_mem_cons.mpr ⟨isReached_passage link asked, reached⟩) h
  | _ => simp_all

/-! ## Files -/

variable {d d' : Disk} {p : Path}

theorem findText_eq_ok {aim : Aim} {s : String} : d.findText aim s = .ok found ↔
    s.toList.contains '\x00' = false ∧ s.utf8ByteSize < pathLimit ∧ s.isEmpty = false ∧
      walk d.root aim linkLimit (d.startOf s) (textSteps s) = .ok found := by
  unfold findText
  split
  · simp_all
  split
  · simp_all
  split
  · simp_all
  · split <;> simp_all

/-- Whether a file can be written does not hang on the file. -/
theorem writeFile_eq_ok : d.writeFile p file = .ok d' ↔
    ∃ found, d.findText .file (p.text '/') = .ok found ∧ found.node.isDirectory = false ∧
      { d with root := d.root.set file found.names } = d' := by
  unfold writeFile
  split
  · simp_all
  · rename_i found h
    cases leaf : found.node.isDirectory <;> simp [h, leaf]

theorem Stands.isDirectory (h : d.Stands) : d.root.isDirectory = true := by
  obtain ⟨node, there, directory⟩ := h
  exact isDirectory_of_at? there directory

/-- The path that a file was written to leads to it. -/
theorem locate?_writeFile (stands : d.Stands) (ends : file.passage = .ends)
    (h : d.writeFile p file = .ok d') :
    ∃ names, d'.locate? p = .ok (some ⟨names, file⟩) := by
  obtain ⟨found, place, leaf, rfl⟩ := writeFile_eq_ok.mp h
  obtain ⟨noNul, short, nonempty, walked⟩ := findText_eq_ok.mp place
  have room := room_of_walk stands.isDirectory (startOf_stands d _) (stands.reached_startOf _)
    walked leaf
  let after : Disk := { d with root := d.root.set file found.names }
  have keeps : d.root.Keeps after.root := room.keeps_file ends
  have beside : (d.startOf (p.text '/')).Beside d.root after.root (after.startOf (p.text '/')) :=
    ⟨startOf_stands d _, startOf_stands after _,
      ((stands.keeps keeps rfl).names_startOf _).trans (stands.names_startOf _).symm⟩
  have again := walk_written keeps ends beside walked room.at?_set
  refine ⟨found.names, ?_⟩
  change after.locate? p = _
  rw [locate?, findText_eq_ok.mpr ⟨noNul, short, nonempty, again⟩, ifThere]

/-! ## Directories -/

/-- A walk to what is there comes to where that stands. -/
theorem at?_of_walk {links : Nat} (stands : trail.Stands root)
    (h : walk root .target links trail todo = .ok found) :
    root.at? found.names = some found.node := by
  generalize meant : Aim.target = aim at h
  fun_induction walk root aim links trail todo with
  | case1 links trail =>
    cases h
    exact stands.here
  | case3 links trail step rest directory stays ih => exact ih stands h
  | case4 links trail rest directory moves ih => exact ih (stands.drop 1) h
  | case11 trail step rest directory moves down more short target entry further links ih =>
    refine ih ?_ h
    split
    · exact Trail.stands_nil
    · exact stands
  | case13 links trail step rest directory moves down more short child link asked entry ih =>
    exact ih (stands.cons entry) h
  | _ => simp_all

theorem makeEntry_stands {node : Node} (stands : d.Stands) (h : d.makeEntry p node = .ok d') :
    d'.Stands := by
  unfold makeEntry at h
  dsimp only at h
  split at h
  · cases h
  split at h
  · cases h
  split at h
  · cases h
  · cases h
  rename_i found name walked last
  split at h
  · cases h
  rename_i directory
  split at h
  · cases h
  split at h
  · cases h
  split at h
  · cases h
  rename_i nothing
  cases h
  have there := at?_of_walk (startOf_stands d _) walked
  refine stands.keeps (keeps_set there (by simpa using directory) fun old entry => ?_) rfl
  obtain ⟨parent, above, inside⟩ := parent_of_at? entry
  cases there.symm.trans above
  simp [inside] at nothing

theorem ensureDirectory_stands (stands : d.Stands) (h : d.ensureDirectory p = .ok d') :
    d'.Stands := by
  unfold ensureDirectory at h
  split at h
  · rename_i made
    cases h
    exact makeEntry_stands stands made
  · cases h
  · cases h
  split at h
  · cases h
  split at h
  · cases h
    exact stands
  · cases h

theorem ensureAlong_stands {names : List String} (stands : d.Stands)
    (h : d.ensureAlong p names = .ok d') : d'.Stands := by
  induction names generalizing d d' with
  | nil => exact ensureDirectory_stands stands h
  | cons name rest ih =>
    unfold ensureAlong at h
    dsimp only at h
    split at h
    · split at h
      · cases h
      · rename_i made
        exact ensureDirectory_stands (ih stands made) h
    · exact ensureDirectory_stands stands h

/-- The current directory stays where it is while directories are made. -/
theorem makeDirectories_stands (stands : d.Stands) (h : d.makeDirectories p = .ok d') :
    d'.Stands := ensureAlong_stands stands h

/-- A blank file is placed by making its directories and writing it. -/
theorem place_blank_eq_ok : d.place p .blank = .ok d' ↔
    ∃ before, d.makeDirectories p.parent = .ok before ∧ before.writeFile p .blank = .ok d' := by
  unfold place
  split <;> simp_all [Node.blank]

/-- Where a blank file can be placed, any file can be. -/
theorem writeFile_of_place (h : d.place p .blank = .ok d') (file : Node) :
    ∃ before after, d.makeDirectories p.parent = .ok before ∧
      before.writeFile p file = .ok after := by
  obtain ⟨before, made, written⟩ := place_blank_eq_ok.mp h
  obtain ⟨found, room, leaf, -⟩ := writeFile_eq_ok.mp written
  exact ⟨before, _, made, writeFile_eq_ok.mpr ⟨found, room, leaf, rfl⟩⟩

end Disk

end TabAudit
