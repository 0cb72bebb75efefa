import Mathlib
import TabAudit.Proofs.Scan.Collect
import TabAudit.Proofs.Scan.File
import TabAudit.Proofs.Scan.Listing
import TabAudit.Proofs.Scan.Reach
import TabAudit.Proofs.Text.Pieces

/-!
# What a scan covers

A survey says what a stretch of a scan has covered below a directory: the files it looked at, in
their order, and the entries it left out. The survey of an entry, of entries in a row and of a
directory follow one another along the tree, and the survey of the root is that of a whole scan.
-/

namespace TabAudit.Scanner

variable {s : Scanner} {d : Disk} {root front : List String} {n child : Node} {name : String}

/-! ## Trees that a scan gets through -/

/-- What a scan needs to get through a tree: the kind of every entry can be told, and the check of
every file it looks at ends in a way that it expects. -/
structure Smooth (s : Scanner) (d : Disk) (root front : List String) (n : Node) : Prop where
  named : n.Named
  kinds : ∀ place entries, n.at? place = some (.directory none entries) →
    ∀ e ∈ entries, ∃ kind,
      leadsToDirectory d (root ++ (front ++ place) ++ [e.1]) e.2 = .ok kind
  settles : ∀ place content access, s.Includes front n place →
    n.at? place = some (.file content access) →
    s.checker.Settles (d.display (root ++ (front ++ place))) (.file content access)

theorem Smooth.below (h : s.Smooth d root front n) {entries : List (String × Node)}
    (here : n = .directory none entries) (found : n.child? name = some child)
    (passes : s.Passes (front ++ [name]) child) : s.Smooth d root (front ++ [name]) child where
  named := h.named.child found
  kinds place entries listed e member := by
    have kind := h.kinds (name :: place) entries ((Node.at?_cons found place).trans listed) e member
    rwa [List.append_assoc front, List.singleton_append]
  settles place content access included file := by
    have settles := h.settles (name :: place) content access
      (includes_cons.mpr ⟨entries, child, here, found, passes, included⟩)
      ((Node.at?_cons found place).trans file)
    rwa [List.append_assoc front, List.singleton_append]

/-! ## Surveys -/

/-- The result for the file at a place below a directory. -/
def Checked (s : Scanner) (d : Disk) (root front : List String) (n : Node) (place : List String)
    (file : CheckedFile) : Prop :=
  ∃ content access log, n.at? place = some (.file content access) ∧
    s.checker.checkFile (d.display (root ++ (front ++ place)))
      (Path.joinNames '/' (front ++ place)) (.file content access) = (.ok file, log)

/-- Whether a place is that of an entry or below it. -/
def Among (entries : List (String × Node)) (place : List String) : Prop :=
  ∃ e ∈ entries, ∃ rest, place = e.1 :: rest

/-- A stretch of a scan has covered entries of a directory. -/
structure Survey (s : Scanner) (d : Disk) (root front : List String) (n : Node)
    (entries : List (String × Node)) (found out : List (List String)) (r : Stretch) : Prop where
  fault : r.fault = none
  files : List.Forall₂ (s.Checked d root front n) found r.files
  mem_found : ∀ place, place ∈ found ↔ s.Includes front n place ∧ Among entries place
  order : found.Pairwise n.Before
  mem_out : ∀ place, place ∈ out ↔ s.LeavesOut front n place ∧ Among entries place
  distinct : out.Nodup
  excluded : r.excluded = out.length

theorem Survey.congr {entries : List (String × Node)} {found out : List (List String)}
    {r r' : Stretch} (h : s.Survey d root front n entries found out r)
    (fault : r'.fault = r.fault) (files : r'.files = r.files)
    (excluded : r'.excluded = r.excluded) : s.Survey d root front n entries found out r' :=
  { h with
    fault := fault.trans h.fault
    files := files ▸ h.files
    excluded := excluded.trans h.excluded }

theorem among_append {a b : List (String × Node)} {place : List String} :
    Among (a ++ b) place ↔ Among a place ∨ Among b place := by
  unfold Among
  simp only [List.mem_append, or_and_right, exists_or]

theorem among_single {e : String × Node} {place : List String} :
    Among [e] place ↔ ∃ rest, place = e.1 :: rest := by
  simp [Among]

/-- Whether an entry may come before another in a scan. -/
def Apart (a b : String × Node) : Prop :=
  a.1 ≠ b.1 ∧ (a.2.isLink = false → b.2.isLink = false → Node.EntryBefore a b)

/-- The files below an entry come before those below a later one. -/
theorem Apart.before {a b : String × Node} (h : Apart a b) (ha : n.child? a.1 = some a.2)
    (hb : n.child? b.1 = some b.2) {u v : List String} (hu : s.Includes front n (a.1 :: u))
    (hv : s.Includes front n (b.1 :: v)) : n.Before (a.1 :: u) (b.1 :: v) := by
  have plain {e : String × Node} (he : n.child? e.1 = some e.2) {w : List String}
      (hw : s.Includes front n (e.1 :: w)) : e.2.isLink = false := by
    obtain ⟨-, child, -, found, passes, -⟩ := includes_cons.mp hw
    rw [he] at found
    cases found
    exact passes.1
  exact Node.before_of_entries h.1 ha hb (h.2 (plain ha hu) (plain hb hv)) u v

theorem Survey.append {a b : List (String × Node)} {found₁ found₂ out₁ out₂ : List (List String)}
    {r₁ r₂ : Stretch} (h₁ : s.Survey d root front n a found₁ out₁ r₁)
    (h₂ : s.Survey d root front n b found₂ out₂ r₂)
    (apart : ∀ x ∈ a, ∀ y ∈ b, Apart x y)
    (inside : ∀ e ∈ a ++ b, n.child? e.1 = some e.2) :
    s.Survey d root front n (a ++ b) (found₁ ++ found₂) (out₁ ++ out₂) (r₁.andThen r₂) := by
  rw [Stretch.andThen_of_none h₁.fault]
  constructor
  · exact h₂.fault
  · exact List.rel_append h₁.files h₂.files
  · intro place
    rw [List.mem_append, h₁.mem_found, h₂.mem_found, among_append, and_or_left]
  · refine List.pairwise_append.mpr ⟨h₁.order, h₂.order, fun u hu v hv => ?_⟩
    obtain ⟨iu, x, hx, u', rfl⟩ := (h₁.mem_found u).mp hu
    obtain ⟨iv, y, hy, v', rfl⟩ := (h₂.mem_found v).mp hv
    exact (apart x hx y hy).before (inside x (by simp [hx])) (inside y (by simp [hy])) iu iv
  · intro place
    rw [List.mem_append, h₁.mem_out, h₂.mem_out, among_append, and_or_left]
  · refine List.nodup_append.mpr ⟨h₁.distinct, h₂.distinct, fun u hu v hv => ?_⟩
    obtain ⟨-, x, hx, u', rfl⟩ := (h₁.mem_out u).mp hu
    obtain ⟨-, y, hy, v', rfl⟩ := (h₂.mem_out v).mp hv
    simp [(apart x hx y hy).1]
  · simp [h₁.excluded, h₂.excluded]

/-! ## Single tasks -/

section SingleTasks

variable (s d root)

theorem first_visit_link (h : child.isLink = true) (place : List String) :
    ∃ log, s.first d root (.visit (root ++ place) child) = (.noted log, []) := by
  simp [first, perform, h, Stretch.noted]

theorem first_visit_excluded {place : List String} (plain : child.isLink = false)
    (out : s.excludes (Path.joinNames '/' place) = true) :
    ∃ log, s.first d root (.visit (root ++ place) child) = (⟨log, [], 1, none⟩, []) := by
  simp [first, perform, plain, out]

theorem first_visit_directory {refusal : Option DiskCause} {entries : List (String × Node)}
    {place : List String} (passes : s.Passes place (.directory refusal entries)) :
    s.first d root (.visit (root ++ place) (.directory refusal entries)) =
      (.noted [], [.enter (root ++ place) (.directory refusal entries)]) := by
  simp [first, perform, passes.1, passes.2, Stretch.noted]

theorem first_visit_other {place : List String} (directory : child.isDirectory = false)
    (file : ∀ content access, child ≠ .file content access) (passes : s.Passes place child) :
    s.first d root (.visit (root ++ place) child) = (.noted [], []) := by
  cases child with
  | directory => cases directory
  | file content access => exact absurd rfl (file content access)
  | _ => simp [first, perform, passes.1, passes.2, Stretch.noted]

theorem first_visit_file {content : List UInt8} {access : FileAccess} {place : List String}
    {file : CheckedFile} {log : Log} (passes : s.Passes place (.file content access))
    (checked : s.checker.checkFile (d.display (root ++ place)) (Path.joinNames '/' place)
      (.file content access) = (.ok file, log)) :
    s.first d root (.visit (root ++ place) (.file content access)) =
      (⟨log, [file], 0, none⟩, []) := by
  simp [first, perform, passes.1, passes.2, checked]

theorem first_enter_refused (cause : DiskCause) (entries : List (String × Node))
    (names : List String) :
    ∃ log, s.first d root (.enter names (.directory (some cause) entries)) = (.noted log, []) := by
  simp [first, perform, listing, Stretch.noted]

theorem first_enter {names : List String} {listed : List (String × Node)}
    (h : listing d names child = .ok listed) :
    s.first d root (.enter names child) =
      (.noted [], listed.map fun e => .visit (names ++ [e.1]) e.2) := by
  simp [first, perform, h, Stretch.noted]

/-- A task that only leads to others comes to what they come to. -/
theorem collect_of_noted {t : Task} {more : List Task} {log : Log}
    (h : s.first d root t = (.noted log, more)) :
    (s.collect d root [t]).fault = (s.collect d root more).fault ∧
      (s.collect d root [t]).files = (s.collect d root more).files ∧
      (s.collect d root [t]).excluded = (s.collect d root more).excluded := by
  rw [collect_single, h, Stretch.andThen_of_none rfl]
  simp

end SingleTasks

/-! ## The survey of an entry -/

/-- Nothing to cover. -/
theorem survey_nothing {entries : List (String × Node)} {r : Stretch} (fault : r.fault = none)
    (files : r.files = []) (excluded : r.excluded = 0)
    (none_in : ∀ place, Among entries place → ¬ s.Includes front n place)
    (none_out : ∀ place, Among entries place → ¬ s.LeavesOut front n place) :
    s.Survey d root front n entries [] [] r where
  fault := fault
  files := files ▸ .nil
  mem_found place := by simpa using fun included => mt (none_in place) (not_not.mpr included)
  order := .nil
  mem_out place := by simpa using fun left => mt (none_out place) (not_not.mpr left)
  distinct := .nil
  excluded := excluded

theorem includes_entry {entries : List (String × Node)} {rest : List String}
    (here : n = .directory none entries) (found : n.child? name = some child) :
    s.Includes front n (name :: rest) ↔
      s.Passes (front ++ [name]) child ∧ s.Includes (front ++ [name]) child rest := by
  rw [includes_cons]
  constructor
  · rintro ⟨-, child', -, found', inside⟩
    rw [found] at found'
    cases found'
    exact inside
  · exact fun inside => ⟨entries, child, here, found, inside⟩

theorem leavesOut_entry {entries : List (String × Node)} {rest : List String}
    (here : n = .directory none entries) (found : n.child? name = some child) :
    s.LeavesOut front n (name :: rest) ↔
      child.isLink = false ∧
        if s.excludes (Path.joinNames '/' (front ++ [name])) = true then rest = []
        else s.LeavesOut (front ++ [name]) child rest := by
  rw [leavesOut_cons]
  constructor
  · rintro ⟨-, child', -, found', inside⟩
    rw [found] at found'
    cases found'
    exact inside
  · exact fun inside => ⟨entries, child, here, found, inside⟩

theorem leavesOut_leaf {place : List String} (leaf : ∀ entries, n ≠ .directory none entries) :
    ¬ s.LeavesOut front n place := by
  rintro ⟨reach, some_, -⟩
  cases place with
  | nil => exact some_ rfl
  | cons name rest =>
    obtain ⟨entries, here⟩ := reach.lists_here
    exact leaf entries here

theorem includes_leaf {place : List String} (leaf : ∀ entries, n ≠ .directory none entries) :
    s.Includes front n place ↔
      place = [] ∧ ∃ content access, n = .file content access ∧ s.Passes front n := by
  constructor
  · rintro ⟨reach, content, access, file, passes⟩
    cases place with
    | nil =>
      cases Option.some.inj file
      exact ⟨rfl, content, access, rfl, by simpa using passes⟩
    | cons name rest =>
      obtain ⟨entries, here⟩ := reach.lists_here
      exact absurd here (leaf entries)
  · rintro ⟨rfl, content, access, rfl, passes⟩
    exact ⟨reaches_nil, content, access, rfl, by simpa using passes⟩

theorem among_of_includes {refusal : Option DiskCause} {entries : List (String × Node)}
    {place : List String} (h : s.Includes front (.directory refusal entries) place) :
    Among entries place := by
  cases place with
  | nil =>
    obtain ⟨-, content, access, file, -⟩ := h
    cases file
  | cons name rest =>
    obtain ⟨_, child, -, found, -⟩ := includes_cons.mp h
    exact ⟨(name, child), Node.mem_of_lookup found, rest, rfl⟩

theorem among_of_leavesOut {refusal : Option DiskCause} {entries : List (String × Node)}
    {place : List String} (h : s.LeavesOut front (.directory refusal entries) place) :
    Among entries place := by
  cases place with
  | nil => exact absurd rfl h.2.1
  | cons name rest =>
    obtain ⟨_, child, -, found, -⟩ := leavesOut_cons.mp h
    exact ⟨(name, child), Node.mem_of_lookup found, rest, rfl⟩

section Entry

variable {entries : List (String × Node)} (here : n = .directory none entries)
  (found : n.child? name = some child)

include here found

/-- Nothing is covered below an entry that a scan does not go on at, nor left out there. -/
theorem survey_passed_over {log : Log} {t : Task} (alone : s.first d root t = (.noted log, []))
    (none_in : s.Passes (front ++ [name]) child →
      ∀ rest, ¬ s.Includes (front ++ [name]) child rest)
    (none_out : ∀ rest, ¬ s.LeavesOut front n (name :: rest)) :
    s.Survey d root front n [(name, child)] [] [] (s.collect d root [t]) := by
  obtain ⟨fault, files, excluded⟩ := collect_of_noted s d root alone
  rw [collect_nil] at fault files excluded
  refine survey_nothing fault files excluded ?_ ?_
  · rintro place among included
    obtain ⟨rest, rfl⟩ := among_single.mp among
    obtain ⟨passes, inside⟩ := (includes_entry here found).mp included
    exact none_in passes rest inside
  · rintro place among left
    obtain ⟨rest, rfl⟩ := among_single.mp among
    exact none_out rest left

theorem survey_excluded (plain : child.isLink = false)
    (out : s.excludes (Path.joinNames '/' (front ++ [name])) = true) :
    s.Survey d root front n [(name, child)] [] [[name]]
      (s.collect d root [.visit (root ++ (front ++ [name])) child]) := by
  obtain ⟨log, alone⟩ := first_visit_excluded s d root plain out
  rw [collect_single, alone, collect_nil, Stretch.andThen_of_none rfl]
  constructor
  · rfl
  · exact .nil
  · intro place
    refine iff_of_false (by simp) ?_
    rintro ⟨included, among⟩
    obtain ⟨rest, rfl⟩ := among_single.mp among
    obtain ⟨passes, -⟩ := (includes_entry here found).mp included
    exact absurd (out.symm.trans passes.2) (by decide)
  · exact .nil
  · intro place
    rw [List.mem_singleton, among_single]
    constructor
    · rintro rfl
      exact ⟨(leavesOut_entry here found).mpr ⟨plain, by rw [if_pos out]⟩, [], rfl⟩
    · rintro ⟨left, rest, rfl⟩
      have inside := ((leavesOut_entry here found).mp left).2
      rw [if_pos out] at inside
      rw [inside]
  · simp
  · rfl

theorem survey_file {content : List UInt8} {access : FileAccess}
    (file : child = .file content access) (passes : s.Passes (front ++ [name]) child)
    (settles : s.checker.Settles (d.display (root ++ (front ++ [name]))) child) :
    s.Survey d root front n [(name, child)] [[name]] []
      (s.collect d root [.visit (root ++ (front ++ [name])) child]) := by
  subst file
  obtain ⟨result, log, checked⟩ := settles.checkFile (Path.joinNames '/' (front ++ [name]))
  have leaf : ∀ entries, Node.file content access ≠ .directory none entries := by simp
  rw [collect_single, first_visit_file s d root passes checked, collect_nil,
    Stretch.andThen_of_none rfl]
  constructor
  · rfl
  · exact .cons ⟨content, access, log, (Node.at?_single n name).trans found, checked⟩ .nil
  · intro place
    rw [List.mem_singleton, among_single]
    constructor
    · rintro rfl
      exact ⟨(includes_entry here found).mpr
        ⟨passes, (includes_leaf leaf).mpr ⟨rfl, content, access, rfl, passes⟩⟩, [], rfl⟩
    · rintro ⟨included, rest, rfl⟩
      obtain ⟨-, inside⟩ := (includes_entry here found).mp included
      rw [((includes_leaf leaf).mp inside).1]
  · exact List.pairwise_singleton _ _
  · intro place
    refine iff_of_false (by simp) ?_
    rintro ⟨left, among⟩
    obtain ⟨rest, rfl⟩ := among_single.mp among
    have inside := ((leavesOut_entry here found).mp left).2
    rw [if_neg (by rw [passes.2]; decide)] at inside
    exact leavesOut_leaf leaf inside
  · exact .nil
  · rfl

/-- What is covered below a directory among the entries is covered below the directory of the
entries. -/
theorem survey_directory {inner out : List (List String)} {r : Stretch}
    (passes : s.Passes (front ++ [name]) child)
    (directory : child.isDirectory = true)
    (h : s.Survey d root (front ++ [name]) child child.entries inner out r) :
    s.Survey d root front n [(name, child)] (inner.map (name :: ·)) (out.map (name :: ·)) r := by
  obtain ⟨refusal, inside, rfl⟩ : ∃ refusal inside, child = .directory refusal inside := by
    cases child <;> simp_all [Node.isDirectory]
  constructor
  · exact h.fault
  · refine List.forall₂_map_left_iff.mpr (h.files.imp fun place file checked => ?_)
    obtain ⟨content, access, log, at_, checked⟩ := checked
    refine ⟨content, access, log, (Node.at?_cons found place).trans at_, ?_⟩
    rwa [List.append_assoc front, List.singleton_append] at checked
  · intro place
    rw [List.mem_map, among_single]
    constructor
    · rintro ⟨rest, member, rfl⟩
      exact ⟨(includes_entry here found).mpr ⟨passes, ((h.mem_found rest).mp member).1⟩, rest, rfl⟩
    · rintro ⟨included, rest, rfl⟩
      obtain ⟨-, below⟩ := (includes_entry here found).mp included
      exact ⟨rest, (h.mem_found rest).mpr ⟨below, among_of_includes below⟩, rfl⟩
  · exact h.order.map _ fun u v before => before.below found
  · intro place
    rw [List.mem_map, among_single]
    have kept : ¬ s.excludes (Path.joinNames '/' (front ++ [name])) = true := by
      rw [passes.2]
      decide
    constructor
    · rintro ⟨rest, member, rfl⟩
      refine ⟨(leavesOut_entry here found).mpr ⟨rfl, ?_⟩, rest, rfl⟩
      rw [if_neg kept]
      exact ((h.mem_out rest).mp member).1
    · rintro ⟨left, rest, rfl⟩
      have below := ((leavesOut_entry here found).mp left).2
      rw [if_neg kept] at below
      exact ⟨rest, (h.mem_out rest).mpr ⟨below, among_of_leavesOut below⟩, rfl⟩
  · exact List.pairwise_map.mpr
      (h.distinct.imp fun differ same => differ (List.cons.inj same).2)
  · rw [h.excluded, List.length_map]

/-- The survey of an entry, given that of a directory. -/
theorem survey_visit (smooth : s.Smooth d root front n)
    (inside : child.isDirectory = true → s.Passes (front ++ [name]) child →
      ∃ inner out, s.Survey d root (front ++ [name]) child child.entries inner out
        (s.collect d root [.enter (root ++ (front ++ [name])) child])) :
    ∃ inner out, s.Survey d root front n [(name, child)] inner out
      (s.collect d root [.visit (root ++ (front ++ [name])) child]) := by
  by_cases link : child.isLink = true
  · obtain ⟨log, alone⟩ := first_visit_link s d root link (front ++ [name])
    refine ⟨[], [], survey_passed_over here found alone ?_ ?_⟩
    · rintro ⟨plain, -⟩
      exact absurd (link.symm.trans plain) (by decide)
    · intro rest left
      exact absurd (link.symm.trans ((leavesOut_entry here found).mp left).1) (by decide)
  have plain : child.isLink = false := Bool.eq_false_iff.mpr link
  by_cases out : s.excludes (Path.joinNames '/' (front ++ [name])) = true
  · exact ⟨[], [[name]], survey_excluded here found plain out⟩
  have passes : s.Passes (front ++ [name]) child := ⟨plain, Bool.eq_false_iff.mpr out⟩
  have left_below {rest : List String} (left : s.LeavesOut front n (name :: rest)) :
      s.LeavesOut (front ++ [name]) child rest := by
    have below := ((leavesOut_entry here found).mp left).2
    rwa [if_neg out] at below
  cases child with
  | link target => cases plain
  | pipe | unasked =>
    refine ⟨[], [], survey_passed_over here found
      (first_visit_other s d root rfl (by simp) passes) ?_ ?_⟩
    · rintro - rest included
      obtain ⟨-, content, access, file, -⟩ := (includes_leaf (by simp)).mp included
      cases file
    · exact fun rest left => leavesOut_leaf (by simp) (left_below left)
  | file content access =>
    have place := (Node.at?_single n name).trans found
    have included : s.Includes front n [name] := (includes_entry here found).mpr
      ⟨passes, reaches_nil, content, access, rfl, by simpa using passes⟩
    exact ⟨[[name]], [], survey_file here found rfl passes
      (smooth.settles [name] content access included place)⟩
  | directory refusal entries =>
    obtain ⟨inner, out, h⟩ := inside rfl passes
    obtain ⟨fault, files, excluded⟩ :=
      collect_of_noted s d root (first_visit_directory s d root passes)
    exact ⟨_, _, (survey_directory here found passes rfl h).congr fault files excluded⟩

end Entry

/-! ## The survey of a directory -/

/-- Entries in a row are covered one after the other. -/
theorem survey_visits {entries row : List (String × Node)} (smooth : s.Smooth d root front n)
    (here : n = .directory none entries) (found : ∀ e ∈ row, n.child? e.1 = some e.2)
    (apart : row.Pairwise Apart)
    (inside : ∀ e ∈ row, e.2.isDirectory = true → s.Passes (front ++ [e.1]) e.2 →
      ∃ inner out, s.Survey d root (front ++ [e.1]) e.2 e.2.entries inner out
        (s.collect d root [.enter (root ++ (front ++ [e.1])) e.2])) :
    ∃ inner out, s.Survey d root front n row inner out
      (s.collect d root (row.map fun e => .visit (root ++ (front ++ [e.1])) e.2)) := by
  induction row with
  | nil =>
    refine ⟨[], [], survey_nothing ?_ ?_ ?_ ?_ ?_⟩
    · rw [List.map_nil, collect_nil, Stretch.noted_fault]
    · rw [List.map_nil, collect_nil, Stretch.noted_files]
    · rw [List.map_nil, collect_nil, Stretch.noted_excluded]
    · rintro place ⟨e, member, -⟩
      simp at member
    · rintro place ⟨e, member, -⟩
      simp at member
  | cons e row ih =>
    obtain ⟨before, later⟩ := List.pairwise_cons.mp apart
    obtain ⟨inner₁, out₁, h₁⟩ := survey_visit here (found e (by simp)) smooth (inside e (by simp))
    obtain ⟨inner₂, out₂, h₂⟩ := ih (fun x hx => found x (by simp [hx])) later
      fun x hx => inside x (by simp [hx])
    refine ⟨inner₁ ++ inner₂, out₁ ++ out₂, ?_⟩
    show s.Survey d root front n ([e] ++ row) _ _ (s.collect d root ([_] ++ _))
    rw [collect_append]
    exact h₁.append h₂ (fun x hx => by rw [List.mem_singleton.mp hx]; exact before) found

theorem tasks_lt_of_mem {entries : List (String × Node)} {e : String × Node} (h : e ∈ entries) :
    e.2.tasks < tasksIn entries := by
  induction entries with
  | nil => simp at h
  | cons first rest ih =>
    rw [tasksIn]
    rcases List.mem_cons.mp h with rfl | h
    · omega
    · have := ih h
      omega

theorem Survey.perm {a b : List (String × Node)} {found out : List (List String)} {r : Stretch}
    (h : s.Survey d root front n a found out r) (perm : a.Perm b) :
    s.Survey d root front n b found out r := by
  have among (place : List String) : Among a place ↔ Among b place := by
    simp only [Among, perm.mem_iff]
  exact { h with
    mem_found := fun place => (h.mem_found place).trans (and_congr_right' (among place))
    mem_out := fun place => (h.mem_out place).trans (and_congr_right' (among place)) }

/-- The survey of a directory that can be listed, given those of the directories below it. -/
theorem survey_listed {entries : List (String × Node)}
    (smooth : s.Smooth d root front (.directory none entries))
    (inside : ∀ e ∈ entries, e.2.isDirectory = true → s.Passes (front ++ [e.1]) e.2 →
      ∃ inner out, s.Survey d root (front ++ [e.1]) e.2 e.2.entries inner out
        (s.collect d root [.enter (root ++ (front ++ [e.1])) e.2])) :
    ∃ inner out, s.Survey d root front (.directory none entries) entries inner out
      (s.collect d root [.enter (root ++ front) (.directory none entries)]) := by
  have distinct : (entries.map Prod.fst).Nodup := smooth.named.nodup (Node.at?_nil _)
  have kinds : ∀ e ∈ entries, ∃ kind,
      leadsToDirectory d (root ++ front ++ [e.1]) e.2 = .ok kind := by
    have kinds := smooth.kinds [] entries (Node.at?_nil _)
    rwa [List.append_nil] at kinds
  obtain ⟨listed, listing, perm, apart⟩ := listing_ordered distinct kinds
  have found : ∀ e ∈ listed, (Node.directory none entries).child? e.1 = some e.2 :=
    fun e he => Node.lookup_of_mem distinct (perm.mem_iff.mp he)
  obtain ⟨inner, out, h⟩ := survey_visits smooth rfl found apart
    fun e he => inside e (perm.mem_iff.mp he)
  obtain ⟨fault, files, excluded⟩ := collect_of_noted s d root (first_enter s d root listing)
  simp only [List.append_assoc root] at fault files excluded
  exact ⟨inner, out, (h.perm perm).congr fault files excluded⟩

/-- Nothing is covered below a directory that cannot be listed. -/
theorem survey_refused (cause : DiskCause) (entries : List (String × Node)) (names : List String) :
    s.Survey d root front (.directory (some cause) entries) entries [] []
      (s.collect d root [.enter names (.directory (some cause) entries)]) := by
  obtain ⟨log, alone⟩ := first_enter_refused s d root cause entries names
  have leaf : ∀ others, Node.directory (some cause) entries ≠ .directory none others := by simp
  obtain ⟨fault, files, excluded⟩ := collect_of_noted s d root alone
  rw [collect_nil] at fault files excluded
  refine survey_nothing fault files excluded ?_ fun place _ left => leavesOut_leaf leaf left
  rintro place - included
  obtain ⟨-, content, access, file, -⟩ := (includes_leaf leaf).mp included
  cases file

/-- The survey of a directory. -/
theorem survey_enter (smooth : s.Smooth d root front n) (directory : n.isDirectory = true) :
    ∃ inner out, s.Survey d root front n n.entries inner out
      (s.collect d root [.enter (root ++ front) n]) := by
  -- Not on the tree itself: the entries come sorted, and below each a whole scan goes on.
  induction h : n.tasks using Nat.strong_induction_on generalizing n front with
  | _ size ih =>
    subst h
    cases n with
    | directory refusal entries =>
      cases refusal with
      | some cause => exact ⟨[], [], survey_refused cause entries _⟩
      | none =>
        refine survey_listed smooth fun e he dir passes => ?_
        have smaller : e.2.tasks < (Node.directory none entries).tasks := by
          have := tasks_lt_of_mem he
          rw [Node.tasks]
          omega
        have found := Node.lookup_of_mem (smooth.named.nodup (Node.at?_nil _)) he
        exact ih _ smaller (smooth.below rfl found passes) dir rfl
    | _ => cases directory

/-! ## The survey of a scan -/

theorem collect_enter_root (names : List String) (node : Node) :
    s.collect d names [.enter (names ++ []) node] = s.collect d names [.enter names node] := by
  rw [List.append_nil]

/-- A scan from a directory that ends without a fault reports what it came to. -/
theorem check_of_collect {p : Path} {found : Located} (resolved : d.resolve p = .ok root)
    (located : d.findNames root = .ok found) (directory : found.node.isDirectory = true)
    (fault : (s.collect d root [.enter root found.node]).fault = none) :
    (s.check d p).1 = .ok ⟨root, (s.collect d root [.enter root found.node]).files,
      (s.collect d root [.enter root found.node]).excluded⟩ := by
  simp [check, begin, Disk.ifThere, resolved, located, directory, fault]

/-- A scan from a directory that can be got through ends with the survey of that directory. -/
theorem check_survey {p : Path} {found : Located} (resolved : d.resolve p = .ok root)
    (located : d.findNames root = .ok found) (directory : found.node.isDirectory = true)
    (smooth : s.Smooth d root [] found.node) :
    ∃ report log places out,
      (s.check d p).1 = .ok report ∧
      s.Survey d root [] found.node found.node.entries places out
        ⟨log, report.files, report.excluded, none⟩ := by
  obtain ⟨places, out, h⟩ := survey_enter smooth directory
  rw [collect_enter_root] at h
  exact ⟨_, [], places, out, check_of_collect resolved located directory h.fault,
    h.congr h.fault.symm rfl rfl⟩

theorem Survey.paths {entries : List (String × Node)} {found out : List (List String)}
    {r : Stretch} (h : s.Survey d root [] n entries found out r) :
    r.files.map (·.path) = found.map (Path.joinNames '/') := by
  have same : List.Forall₂ (· = ·) (found.map (Path.joinNames '/')) (r.files.map (·.path)) := by
    refine List.forall₂_map_left_iff.mpr (List.forall₂_map_right_iff.mpr ?_)
    refine h.files.imp fun place file checked => ?_
    obtain ⟨content, access, log, -, checked⟩ := checked
    exact (Checker.checkFile_path checked).symm
  rw [List.forall₂_eq_eq_eq] at same
  exact same.symm

/-- Two files that a scan looks at have different paths. -/
theorem Survey.paths_distinct {entries : List (String × Node)} {found out : List (List String)}
    {r : Stretch} (named : n.Named)
    (h : s.Survey d root [] n entries found out r) : (r.files.map (·.path)).Nodup := by
  have written (place : List String) (member : place ∈ found) :
      place ≠ [] ∧ ∀ name ∈ place, '/' ∉ name.toList := by
    obtain ⟨⟨-, content, access, file, -⟩, e, -, rest, rfl⟩ := (h.mem_found place).mp member
    exact ⟨by simp, named.free_of_at? file⟩
  rw [h.paths]
  refine List.pairwise_map.mpr (h.order.imp_of_mem fun {u v} hu hv before same => ?_)
  obtain ⟨some_u, free_u⟩ := written u hu
  obtain ⟨some_v, free_v⟩ := written v hv
  exact before.ne (Path.joinNames_inj some_u some_v free_u free_v same)

/-- A scan looks at every file that it comes to and that no glob takes, once, and at no other; it
does so depth first, and counts the entries that it leaves out. -/
theorem check_covers {p : Path} {found : Located} (resolved : d.resolve p = .ok root)
    (located : d.findNames root = .ok found) (directory : found.node.isDirectory = true)
    (named : found.node.Named)
    (kinds : ∀ place entries, found.node.at? place = some (.directory none entries) →
      ∀ e ∈ entries, ∃ kind, leadsToDirectory d (root ++ place ++ [e.1]) e.2 = .ok kind)
    (settles : ∀ place content access, s.Includes [] found.node place →
      found.node.at? place = some (.file content access) →
      s.checker.Settles (d.display (root ++ place)) (.file content access)) :
    ∃ report, (s.check d p).1 = .ok report ∧
      (report.files.map (·.path)).Nodup ∧
      (∃ places : List (List String), report.files.map (·.path) = places.map (Path.joinNames '/') ∧
        places.Nodup ∧ places.Pairwise found.node.Before ∧
        ∀ place, place ∈ places ↔ s.Includes [] found.node place) ∧
      ∃ out : Finset (List String), report.excluded = out.card ∧
        ∀ place, place ∈ out ↔ s.LeavesOut [] found.node place := by
  obtain ⟨report, log, places, out, whole, h⟩ :=
    check_survey resolved located directory ⟨named, kinds, settles⟩
  obtain ⟨refusal, entries, node⟩ : ∃ refusal entries, found.node = .directory refusal entries := by
    cases node : found.node <;> simp_all [Node.isDirectory]
  refine ⟨report, whole, h.paths_distinct named, ⟨places, h.paths,
    h.order.imp fun before => before.ne, h.order, fun place => ?_⟩, ⟨out, h.distinct⟩, h.excluded,
    fun place => ?_⟩
  · refine (h.mem_found place).trans (and_iff_left_of_imp fun included => ?_)
    rw [node] at included ⊢
    exact among_of_includes included
  · refine (h.mem_out place).trans (and_iff_left_of_imp fun left => ?_)
    rw [node] at left ⊢
    exact among_of_leavesOut left

/-- The entries of a directory with a link and a file. -/
def smallEntries : List (String × Node) :=
  [("to", .link "/b"), ("a", .file [] (.closed .denied))]

/-- A tree with a file, a directory, and an empty directory. -/
def smallTree : Node :=
  .directory none [("b", .file [] (.closed .denied)), ("lib", .directory none smallEntries),
    ("old", .directory none [])]

theorem smallTree_places {place : List String} {node : Node}
    (h : smallTree.at? place = some node) :
    place = [] ∧ node = smallTree ∨ place = ["b"] ∧ node = .file [] (.closed .denied) ∨
      place = ["lib"] ∧ node = .directory none smallEntries ∨
      place = ["lib", "to"] ∧ node = .link "/b" ∨
      place = ["lib", "a"] ∧ node = .file [] (.closed .denied) ∨
      place = ["old"] ∧ node = .directory none [] := by
  rcases place with _ | ⟨name, rest⟩
  · simp [← Option.some.inj h]
  obtain ⟨e, member, rfl, below⟩ := Node.entry_of_at? h
  simp only [smallTree, Node.entries, List.mem_cons, List.not_mem_nil, or_false] at member
  rcases member with rfl | rfl | rfl
  · simp [Node.at?_leaf rfl below]
  · rcases rest with _ | ⟨name, rest⟩
    · simp [← Option.some.inj below]
    obtain ⟨e, member, rfl, deeper⟩ := Node.entry_of_at? below
    simp only [smallEntries, Node.entries, List.mem_cons, List.not_mem_nil, or_false] at member
    rcases member with rfl | rfl
    · simp [Node.at?_leaf rfl deeper]
    · simp [Node.at?_leaf rfl deeper]
  · simp [Node.at?_leaf rfl below]

theorem smallTree_named : smallTree.Named where
  nodup h := by
    rcases smallTree_places h with ⟨-, h⟩ | ⟨-, h⟩ | ⟨-, h⟩ | ⟨-, h⟩ | ⟨-, h⟩ | ⟨-, h⟩ <;>
      cases h <;> simp [smallEntries]
  free h := by
    rcases smallTree_places h with ⟨-, h⟩ | ⟨-, h⟩ | ⟨-, h⟩ | ⟨-, h⟩ | ⟨-, h⟩ | ⟨-, h⟩ <;>
      cases h <;> simp [smallEntries]

theorem smallTree_kinds (place : List String) (entries : List (String × Node))
    (h : smallTree.at? place = some (.directory none entries)) (e : String × Node)
    (member : e ∈ entries) :
    ∃ kind, leadsToDirectory ⟨smallTree, [], ""⟩ ([] ++ place ++ [e.1]) e.2 = .ok kind := by
  have linked : leadsToDirectory ⟨smallTree, [], ""⟩ ["lib", "to"] (.link "/b") = .ok false := by
    simp [leadsToDirectory, target, Disk.ifThere, Disk.findNames, Disk.walk, smallTree,
      smallEntries, Disk.Trail.node, Node.isDirectory, Disk.staysPut, Node.child?, Node.entries,
      Disk.textSteps,
      Disk.isAbsolute, splitAtEach, Disk.linkLimit, List.lookup]
    cbv
  rcases smallTree_places h with ⟨rfl, h⟩ | ⟨-, h⟩ | ⟨rfl, h⟩ | ⟨-, h⟩ | ⟨-, h⟩ | ⟨-, h⟩ <;>
    cases h
  · simp only [List.mem_cons, List.not_mem_nil, or_false] at member
    rcases member with rfl | rfl | rfl <;> exact ⟨_, rfl⟩
  · simp only [smallEntries, List.mem_cons, List.not_mem_nil, or_false] at member
    rcases member with rfl | rfl
    · exact ⟨false, linked⟩
    · exact ⟨_, rfl⟩
  · simp at member

/-- A scanner that leaves out `old`. -/
def smallScanner : Scanner :=
  ⟨⟨"utf-8", .known .utf8, 1, 4⟩,
    [⟨"old", "old", [⟨.exactly 'o', .one⟩, ⟨.exactly 'l', .one⟩, ⟨.exactly 'd', .one⟩]⟩]⟩

theorem smallTree_settles (place : List String) (content : List UInt8) (access : FileAccess)
    (h : smallTree.at? place = some (.file content access)) (shown : String) :
    smallScanner.checker.Settles shown (.file content access) := by
  rintro fault refused
  rcases smallTree_places h with ⟨-, h⟩ | ⟨-, h⟩ | ⟨-, h⟩ | ⟨-, h⟩ | ⟨-, h⟩ | ⟨-, h⟩ <;>
    cases h <;> cases refused <;> trivial

/-- A scan of the small tree that leaves out one of its directories. -/
theorem check_covers_smallTree :
    ∃ report, (smallScanner.check ⟨smallTree, [], ""⟩ ⟨"", "/", []⟩).1 = .ok report ∧
      "lib/a" ∈ report.files.map (·.path) ∧ 1 ≤ report.excluded := by
  obtain ⟨report, whole, -, ⟨places, paths, -, -, mem_places⟩, out, excluded, mem_out⟩ :=
    check_covers (s := smallScanner) (d := ⟨smallTree, [], ""⟩)
      (show Disk.resolve ⟨smallTree, [], ""⟩ ⟨"", "/", []⟩ = .ok [] by cbv)
      (show Disk.findNames ⟨smallTree, [], ""⟩ [] = .ok ⟨[], smallTree⟩ by cbv)
      rfl smallTree_named smallTree_kinds
      fun place content access _ there => smallTree_settles place content access there _
  refine ⟨report, whole, ?_, ?_⟩
  · rw [paths]
    refine List.mem_map.mpr ⟨["lib", "a"], (mem_places _).mpr ?_, by decide⟩
    refine includes_cons.mpr ⟨_, _, rfl, rfl, ⟨rfl, by cbv⟩, ?_⟩
    exact includes_cons.mpr ⟨_, _, rfl, rfl, ⟨rfl, by cbv⟩, reaches_nil, _, _, rfl, rfl, by cbv⟩
  · rw [excluded]
    exact Finset.card_pos.mpr ⟨["old"], (mem_out _).mpr
      (leavesOut_cons.mpr ⟨_, _, rfl, rfl, rfl, by cbv⟩)⟩

end TabAudit.Scanner
