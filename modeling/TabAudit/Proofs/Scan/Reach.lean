import Mathlib.Data.List.Infix
import TabAudit.Proofs.Disk.Tree
import TabAudit.Scan.Scanner

/-!
# What a scan comes to below a directory

A scan comes to a place when every directory above it can be listed and nothing on the way is a
link or excluded. There it looks at a file, or leaves the entry out. `front` holds the names from
the root of the scan to the directory, as globs are matched against the whole way.
-/

namespace TabAudit.Scanner

/-- Whether a scan goes on at a place: what stands there is no link and not excluded. -/
def Passes (s : Scanner) (place : List String) (node : Node) : Prop :=
  node.isLink = false ∧ s.excludes (Path.joinNames '/' place) = false

/-- Whether a scan comes to a place below a directory. -/
structure Reaches (s : Scanner) (front : List String) (n : Node) (place : List String) :
    Prop where
  lists : ∀ way, way <+: place → way ≠ place → ∃ entries, n.at? way = some (.directory none entries)
  passes : ∀ way, way <+: place → way ≠ place → way ≠ [] →
    ∀ node, n.at? way = some node → s.Passes (front ++ way) node

/-- Whether a scan looks at the file at a place. -/
def Includes (s : Scanner) (front : List String) (n : Node) (place : List String) : Prop :=
  s.Reaches front n place ∧
    ∃ content access, n.at? place = some (.file content access) ∧
      s.Passes (front ++ place) (.file content access)

/-- Whether a scan leaves out the entry at a place because of a glob. -/
def LeavesOut (s : Scanner) (front : List String) (n : Node) (place : List String) : Prop :=
  s.Reaches front n place ∧ place ≠ [] ∧
    ∃ node, n.at? place = some node ∧ node.isLink = false ∧
      s.excludes (Path.joinNames '/' (front ++ place)) = true

variable {s : Scanner} {front : List String} {n child : Node} {name : String} {rest : List String}

theorem not_dir_file {content : List UInt8} {access : FileAccess} {place : List String}
    (directory : n.isDirectory = true) (there : n.at? place = some (.file content access)) :
    place ≠ [] := by
  rintro rfl
  cases there
  cases directory

theorem reaches_nil : s.Reaches front n [] where
  lists _ way proper := absurd (List.prefix_nil.mp way) proper
  passes _ way proper := absurd (List.prefix_nil.mp way) proper

theorem Reaches.lists_here (h : s.Reaches front n (name :: rest)) :
    ∃ entries, n = .directory none entries := by
  obtain ⟨entries, here⟩ := h.lists [] List.nil_prefix (by simp)
  exact ⟨entries, Option.some.inj here⟩

theorem Reaches.below (h : s.Reaches front n (name :: rest)) (found : n.child? name = some child) :
    s.Reaches (front ++ [name]) child rest where
  lists way below proper := by
    obtain ⟨entries, place⟩ := h.lists (name :: way) (by simpa using below) (by simpa using proper)
    exact ⟨entries, (Node.at?_cons found way).symm.trans place⟩
  passes way below proper _ node place := by
    have passes := h.passes (name :: way) (by simpa using below) (by simpa using proper) (by simp)
      node ((Node.at?_cons found way).trans place)
    rwa [List.append_assoc, List.singleton_append]

/-- A scan goes on at an entry that it comes to something below. -/
theorem Reaches.passes_entry (h : s.Reaches front n (name :: rest)) (more : rest ≠ [])
    (found : n.child? name = some child) : s.Passes (front ++ [name]) child :=
  h.passes [name] (by simp) (by simpa using more.symm) (by simp) child
    ((Node.at?_single n name).trans found)

theorem reaches_cons {entries : List (String × Node)} (here : n = .directory none entries)
    (found : n.child? name = some child) (passes : rest ≠ [] → s.Passes (front ++ [name]) child)
    (below : s.Reaches (front ++ [name]) child rest) : s.Reaches front n (name :: rest) where
  lists way start proper := by
    rcases List.prefix_cons_iff.mp start with rfl | ⟨way, rfl, inner⟩
    · exact ⟨entries, congrArg some here⟩
    · obtain ⟨entries, place⟩ := below.lists way inner (by simpa using proper)
      exact ⟨entries, (Node.at?_cons found way).trans place⟩
  passes way start proper some_ node place := by
    rcases List.prefix_cons_iff.mp start with rfl | ⟨way, rfl, inner⟩
    · exact absurd rfl some_
    · have proper : way ≠ rest := by simpa using proper
      rw [Node.at?_cons found] at place
      by_cases first : way = []
      · subst first
        cases Option.some.inj place
        exact passes proper.symm
      · have passes := below.passes way inner proper first node place
        rwa [List.append_assoc, List.singleton_append] at passes

/-- The files that a scan looks at below a directory are those below the entries it goes on at. -/
theorem includes_cons :
    s.Includes front n (name :: rest) ↔
      ∃ entries child, n = .directory none entries ∧ n.child? name = some child ∧
        s.Passes (front ++ [name]) child ∧ s.Includes (front ++ [name]) child rest := by
  constructor
  · rintro ⟨reach, content, access, place, passes⟩
    obtain ⟨entries, here⟩ := reach.lists_here
    obtain ⟨child, found, below⟩ := Node.child_of_at? place
    have passes' : s.Passes (front ++ [name] ++ rest) (.file content access) := by
      rwa [List.append_assoc, List.singleton_append]
    refine ⟨entries, child, here, found, ?_, reach.below found, content, access, below, passes'⟩
    by_cases last : rest = []
    · subst last
      cases Option.some.inj below
      exact passes
    · exact reach.passes_entry last found
  · rintro ⟨entries, child, here, found, passes, reach, content, access, below, last⟩
    refine ⟨reaches_cons here found (fun _ => passes) reach, content, access,
      (Node.at?_cons found rest).trans below, ?_⟩
    rwa [List.append_assoc, List.singleton_append] at last

/-- The entries that a scan leaves out below a directory: those that a glob takes, and those below
the entries it goes on at. -/
theorem leavesOut_cons :
    s.LeavesOut front n (name :: rest) ↔
      ∃ entries child, n = .directory none entries ∧ n.child? name = some child ∧
        child.isLink = false ∧
        if s.excludes (Path.joinNames '/' (front ++ [name])) = true then rest = []
        else s.LeavesOut (front ++ [name]) child rest := by
  constructor
  · rintro ⟨reach, -, node, place, plain, out⟩
    obtain ⟨entries, here⟩ := reach.lists_here
    obtain ⟨child, found, below⟩ := Node.child_of_at? place
    by_cases last : rest = []
    · subst last
      cases Option.some.inj below
      exact ⟨entries, _, here, found, plain, by rw [if_pos out]⟩
    · obtain ⟨plain', passes⟩ := reach.passes_entry last found
      refine ⟨entries, child, here, found, plain', ?_⟩
      rw [if_neg (by rw [passes]; decide)]
      refine ⟨reach.below found, last, node, below, plain, ?_⟩
      rwa [List.append_assoc, List.singleton_append]
  · rintro ⟨entries, child, here, found, plain, inside⟩
    split at inside
    · rename_i out
      subst inside
      exact ⟨reaches_cons here found (fun more => absurd rfl more) reaches_nil, by simp, child,
        (Node.at?_single n name).trans found, plain, out⟩
    · rename_i kept
      obtain ⟨reach, some_, node, below, plain', out⟩ := inside
      have passes : s.Passes (front ++ [name]) child := ⟨plain, Bool.eq_false_iff.mpr kept⟩
      refine ⟨reaches_cons here found (fun _ => passes) reach, by simp, node,
        (Node.at?_cons found rest).trans below, plain', ?_⟩
      rwa [List.append_assoc, List.singleton_append] at out

end TabAudit.Scanner
