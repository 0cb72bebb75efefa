import Mathlib.Data.String.Basic
import TabAudit.Disk.Lookup

/-!
# Places in a tree

A place below a node is a row of names, each the name of an entry of the directory before it. No
link is followed. Places have an order, depth first: where two part, a directory comes before
anything else, and otherwise the names decide.
-/

namespace TabAudit

namespace Node

/-! ## Places -/

/-- What stands at a place below a node. -/
def at? (n : Node) : List String → Option Node
  | [] => some n
  | name :: rest =>
    match n.child? name with
    | some child => child.at? rest
    | none => none

@[simp] theorem at?_nil (n : Node) : n.at? [] = some n := rfl

theorem at?_cons {n child : Node} {name : String} (h : n.child? name = some child)
    (rest : List String) : n.at? (name :: rest) = child.at? rest := by
  rw [at?, h]

theorem at?_single (n : Node) (name : String) : n.at? [name] = n.child? name := by
  unfold at?
  cases n.child? name <;> rfl

/-- What stands at a place stands below an entry. -/
theorem child_of_at? {n node : Node} {name : String} {rest : List String}
    (h : n.at? (name :: rest) = some node) :
    ∃ child, n.child? name = some child ∧ child.at? rest = some node := by
  unfold at? at h
  cases found : n.child? name with
  | none => simp [found] at h
  | some child => exact ⟨child, rfl, by simpa [found] using h⟩

/-- An entry of what stands at a place stands one name further. -/
theorem at?_snoc {n node child : Node} {place : List String} {name : String}
    (there : n.at? place = some node) (found : node.child? name = some child) :
    n.at? (place ++ [name]) = some child := by
  induction place generalizing n with
  | nil =>
    cases there
    exact (at?_single _ name).trans found
  | cons first rest ih =>
    obtain ⟨e, inside, below⟩ := child_of_at? there
    rw [List.cons_append, at?_cons inside]
    exact ih below

/-- What stands at a place of at least one name is an entry of what stands one name before. -/
theorem parent_of_at? {n child : Node} {place : List String} {name : String}
    (there : n.at? (place ++ [name]) = some child) :
    ∃ node, n.at? place = some node ∧ node.child? name = some child := by
  induction place generalizing n with
  | nil => exact ⟨n, rfl, (at?_single n name).symm.trans there⟩
  | cons first rest ih =>
    obtain ⟨e, inside, below⟩ := child_of_at? there
    rw [at?_cons inside]
    exact ih below

/-- A tree as a file system keeps it: no directory has two entries of one name, and no name holds
the separator. -/
structure Named (n : Node) : Prop where
  nodup : ∀ {names : List String} {refusal : Option DiskCause} {entries : List (String × Node)},
    n.at? names = some (.directory refusal entries) → (entries.map Prod.fst).Nodup
  free : ∀ {names : List String} {refusal : Option DiskCause} {entries : List (String × Node)},
    n.at? names = some (.directory refusal entries) → ∀ e ∈ entries, '/' ∉ e.1.toList

theorem Named.child {n child : Node} {name : String} (h : n.Named)
    (found : n.child? name = some child) : child.Named where
  nodup place := h.nodup ((at?_cons found _).trans place)
  free place := h.free ((at?_cons found _).trans place)

theorem lookup_of_mem {entries : List (String × Node)} (h : (entries.map Prod.fst).Nodup)
    {name : String} {child : Node} (member : (name, child) ∈ entries) :
    entries.lookup name = some child := by
  obtain ⟨front, back, rfl⟩ := List.append_of_mem member
  refine List.lookup_eq_some_iff.mpr ⟨front, back, rfl, fun e he => ?_⟩
  rw [List.map_append, List.nodup_append] at h
  exact bne_iff_ne.mpr (h.2.2 e.1 (List.mem_map_of_mem he) name (by simp)).symm

theorem mem_of_lookup {entries : List (String × Node)} {name : String} {child : Node}
    (h : entries.lookup name = some child) : (name, child) ∈ entries := by
  obtain ⟨front, back, rfl, -⟩ := List.lookup_eq_some_iff.mp h
  simp

/-- What stands at a place below a node stands below one of its entries. -/
theorem entry_of_at? {n node : Node} {name : String} {rest : List String}
    (h : n.at? (name :: rest) = some node) :
    ∃ e ∈ n.entries, e.1 = name ∧ e.2.at? rest = some node := by
  obtain ⟨child, found, below⟩ := child_of_at? h
  exact ⟨(name, child), mem_of_lookup found, rfl, below⟩

/-- Nothing stands below a node without entries. -/
theorem at?_leaf {n node : Node} {names : List String} (leaf : n.entries = [])
    (h : n.at? names = some node) : names = [] ∧ node = n := by
  cases names with
  | nil => exact ⟨rfl, (Option.some.inj h).symm⟩
  | cons name rest =>
    obtain ⟨e, member, -⟩ := entry_of_at? h
    simp [leaf] at member

/-- The names at a place hold no separator. -/
theorem Named.free_of_at? {n node : Node} {names : List String} (h : n.Named)
    (place : n.at? names = some node) : ∀ name ∈ names, '/' ∉ name.toList := by
  induction names generalizing n with
  | nil => simp
  | cons first rest ih =>
    obtain ⟨child, found, below⟩ := child_of_at? place
    refine List.forall_mem_cons.mpr ⟨?_, ih (h.child found) below⟩
    cases n with
    | directory refusal entries => exact h.free (at?_nil _) _ (mem_of_lookup found)
    | _ => simp [child?, entries] at found

/-! ## The order of places -/

/-- Whether an entry comes before another of the same directory. -/
def EntryBefore (a b : String × Node) : Prop :=
  if a.2.isDirectory = b.2.isDirectory then a.1 < b.1 else a.2.isDirectory = true

/-- Whether a place comes before another: the names are the same up to some directory, and there
the entries differ. -/
def Before (n : Node) (u v : List String) : Prop :=
  ∃ way x y u' v' a b,
    u = way ++ x :: u' ∧ v = way ++ y :: v' ∧ x ≠ y ∧
    n.at? (way ++ [x]) = some a ∧ n.at? (way ++ [y]) = some b ∧ EntryBefore (x, a) (y, b)

theorem before_of_entries {n a b : Node} {x y : String} (differ : x ≠ y)
    (ha : n.child? x = some a) (hb : n.child? y = some b) (h : EntryBefore (x, a) (y, b))
    (u v : List String) : n.Before (x :: u) (y :: v) :=
  ⟨[], x, y, u, v, a, b, rfl, rfl, differ, (at?_single n x).trans ha, (at?_single n y).trans hb, h⟩

theorem Before.below {n child : Node} {name : String} (found : n.child? name = some child)
    {u v : List String} (h : child.Before u v) : n.Before (name :: u) (name :: v) := by
  obtain ⟨way, x, y, u', v', a, b, rfl, rfl, differ, ha, hb, entries⟩ := h
  exact ⟨name :: way, x, y, u', v', a, b, rfl, rfl, differ, (at?_cons found _).trans ha,
    (at?_cons found _).trans hb, entries⟩

theorem Before.ne {n : Node} {u v : List String} (h : n.Before u v) : u ≠ v := by
  obtain ⟨way, x, y, u', v', a, b, rfl, rfl, differ, -⟩ := h
  simp [differ]

theorem EntryBefore.asymm {a b : String × Node} (h : EntryBefore a b) : ¬ EntryBefore b a := by
  unfold EntryBefore at h ⊢
  by_cases same : a.2.isDirectory = b.2.isDirectory
  · rw [if_pos same] at h
    rw [if_pos same.symm]
    exact lt_asymm h
  · rw [if_neg same] at h
    rw [if_neg (Ne.symm same)]
    exact fun other => same (h.trans other.symm)

/-- Places part at their first names or below the entry they share. -/
theorem before_cons {n : Node} {x y : String} {u v : List String} (h : n.Before (x :: u) (y :: v)) :
    (x ≠ y ∧ ∃ a b, n.child? x = some a ∧ n.child? y = some b ∧ EntryBefore (x, a) (y, b)) ∨
      (x = y ∧ ∃ child, n.child? x = some child ∧ child.Before u v) := by
  obtain ⟨way, x', y', u', v', a, b, hu, hv, differ, ha, hb, entries⟩ := h
  cases way with
  | nil =>
    cases hu
    cases hv
    rw [List.nil_append, at?_single] at ha hb
    exact .inl ⟨differ, a, b, ha, hb, entries⟩
  | cons first way =>
    cases hu
    cases hv
    obtain ⟨child, found, ha⟩ := child_of_at? ha
    obtain ⟨_, found', hb⟩ := child_of_at? hb
    cases found.symm.trans found'
    exact .inr ⟨rfl, child, found, way, x', y', u', v', a, b, rfl, rfl, differ, ha, hb, entries⟩

theorem Before.asymm {n : Node} {u v : List String} (h : n.Before u v) : ¬ n.Before v u := by
  intro back
  induction u generalizing n v with
  | nil =>
    obtain ⟨way, x, y, u', v', a, b, nothing, -⟩ := h
    simp at nothing
  | cons x u ih =>
    cases v with
    | nil =>
      obtain ⟨way, x, y, u', v', a, b, nothing, -⟩ := back
      simp at nothing
    | cons y v =>
      rcases before_cons h with ⟨differ, a, b, ha, hb, entries⟩ | ⟨rfl, child, found, below⟩
      · rcases before_cons back with ⟨-, b', a', hb', ha', entries'⟩ | ⟨same, -⟩
        · cases ha.symm.trans ha'
          cases hb.symm.trans hb'
          exact entries.asymm entries'
        · exact differ same.symm
      · rcases before_cons back with ⟨differ, -⟩ | ⟨-, child', found', below'⟩
        · exact differ rfl
        · cases found.symm.trans found'
          exact ih below below'

/-- Rows of places in order that hold the same places are the same row. -/
theorem row_unique {n : Node} {us vs : List (List String)} (hu : us.Pairwise n.Before)
    (hv : vs.Pairwise n.Before) (same : ∀ place, place ∈ us ↔ place ∈ vs) : us = vs := by
  have perm : us.Perm vs := (List.perm_ext_iff_of_nodup (hu.imp fun before => before.ne)
    (hv.imp fun before => before.ne)).mpr same
  exact perm.eq_of_pairwise (fun u v _ _ before back => absurd back before.asymm) hu hv

end Node

/-! ## What a walk finds -/

namespace Disk

variable {root : Node} {trail : Trail}

/-- A trail through trees as a file system keeps them. -/
def Trail.Named (trail : Trail) : Prop := ∀ e ∈ trail, e.2.Named

theorem Trail.Named.node (h : trail.Named) (whole : root.Named) : (trail.node root).Named := by
  cases trail with
  | nil => exact whole
  | cons e rest => exact h e (by simp)

/-- A walk to what is there finds a part of the tree. -/
theorem named_of_walk {aim : Aim} {links : Nat} {todo : List String} {found : Located}
    (whole : root.Named) (named : trail.Named) (target : aim = .target)
    (h : walk root aim links trail todo = .ok found) : found.node.Named := by
  fun_induction walk root aim links trail todo with
  | case1 links trail =>
    cases h
    exact named.node whole
  | case3 links trail step rest directory stays ih => exact ih named h
  | case4 links trail rest directory stays ih =>
    exact ih (fun e member => named e (List.mem_of_mem_drop member)) h
  | case11 =>
    rename_i ih
    refine ih ?_ h
    split
    · simp [Trail.Named]
    · exact named
  | case13 =>
    rename_i child ih
    exact ih (List.forall_mem_cons.mpr ⟨(named.node whole).child child, named⟩) h
  | _ => simp_all

theorem named_of_findNames {d : Disk} {names : List String} {found : Located}
    (named : d.root.Named) (h : d.findNames names = .ok found) : found.node.Named := by
  unfold findNames at h
  split at h
  · cases h
  split at h
  · cases h
  split at h
  · rename_i walked
    cases h
    exact named_of_walk named (by simp [Trail.Named]) rfl walked
  · cases h

/-- What is there was found. -/
theorem ifThere_eq_some {outcome : Except DiskError Located} {found : Located} :
    ifThere outcome = .ok (some found) ↔ outcome = .ok found := by
  unfold ifThere
  split
  · simp
  · split <;> simp
  · simp

end Disk

end TabAudit
