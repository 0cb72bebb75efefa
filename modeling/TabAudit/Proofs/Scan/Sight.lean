import Mathlib
import TabAudit.Proofs.Scan.Coverage
import TabAudit.Proofs.Scan.Files

/-!
# What a scan sees

Of a link a scan sees that it is one, and of an entry that a glob takes that it is there. It sees
neither where the one leads nor what the other is or holds, so trees that differ in nothing else
have the same report. No task of a scan lists or opens anything at such an entry or below it.
-/

namespace TabAudit

/-- What a scan sees of what stands at a place. -/
inductive Sight where
  | directory (refusal : Option DiskCause)
  | file (content : List UInt8) (access : FileAccess)
  | pipe
  | unasked (cause : DiskCause)
  | link
  | leftOut
  deriving DecidableEq, Repr

/-- All that can be seen of a node itself. -/
def Node.face : Node → Sight
  | .directory refusal _ => .directory refusal
  | .file content access => .file content access
  | .link _ => .link
  | .pipe => .pipe
  | .unasked cause => .unasked cause

theorem Node.isDirectory_of_face {n other : Node} (h : n.face = other.face) :
    n.isDirectory = other.isDirectory := by
  cases n <;> cases other <;> first | rfl | cases h

namespace Scanner

variable {s : Scanner} {d d' : Disk} {root front place : List String} {n n' node : Node}

instance : Decidable (s.Passes place node) :=
  inferInstanceAs (Decidable (_ ∧ _))

/-- What a scan sees of an entry at a place. -/
def seen (s : Scanner) (place : List String) (node : Node) : Sight :=
  if node.isLink then .link
  else if s.excludes (Path.joinNames '/' place) then .leftOut
  else node.face

/-- What a scan sees at a place below a directory. Only what it goes on at shows what is below. -/
def sight (s : Scanner) (front : List String) : Node → List String → Option Sight
  | n, [] => some n.face
  | .directory none entries, name :: rest =>
    match entries.lookup name with
    | none => none
    | some child =>
      if rest = [] then some (s.seen (front ++ [name]) child)
      else if s.Passes (front ++ [name]) child then s.sight (front ++ [name]) child rest
      else none
  | _, _ :: _ => none

/-! ## Sights and places -/

theorem seen_of_passes (h : s.Passes place node) : s.seen place node = node.face := by
  rw [seen, if_neg (by rw [h.1]; decide), if_neg (by rw [h.2]; decide)]

theorem seen_eq_leftOut : s.seen place node = .leftOut ↔
    node.isLink = false ∧ s.excludes (Path.joinNames '/' place) = true := by
  unfold seen
  cases link : node.isLink
  · cases out : s.excludes (Path.joinNames '/' place)
    · cases node <;> simp [Node.face]
    · simp
  · simp

theorem seen_eq_file {content : List UInt8} {access : FileAccess} :
    s.seen place node = .file content access ↔
      node = .file content access ∧ s.Passes place (.file content access) := by
  unfold seen Passes
  cases out : s.excludes (Path.joinNames '/' place) <;> cases node <;>
    simp [Node.isLink, Node.face]

/-- What passes is seen as what it is, and what is seen as that passes as well. -/
theorem passes_of_seen (passes : s.Passes place node) {other : Node}
    (same : s.seen place other = s.seen place node) :
    s.Passes place other ∧ other.face = node.face := by
  rw [seen_of_passes passes, seen, passes.2] at same
  cases link : other.isLink with
  | false =>
    rw [link] at same
    exact ⟨⟨link, passes.2⟩, same⟩
  | true =>
    rw [link] at same
    cases node with
    | link target => cases passes.1
    | _ => cases same

/-- A scan sees just the places that it comes to. -/
theorem sight_eq_some {v : Sight} : s.sight front n place = some v ↔
    s.Reaches front n place ∧
      ∃ node, n.at? place = some node ∧
        v = if place = [] then node.face else s.seen (front ++ place) node := by
  induction place generalizing n front with
  | nil =>
    rw [sight, Option.some.injEq]
    exact ⟨fun h => ⟨reaches_nil, n, rfl, h.symm⟩, by rintro ⟨-, node, ⟨⟩, h⟩; exact h.symm⟩
  | cons name rest ih =>
    simp only [List.cons_ne_nil, if_false]
    constructor
    · intro h
      unfold sight at h
      split at h
      · rename_i nothing
        cases nothing
      · rename_i entries name rest same
        cases same
        split at h
        · cases h
        rename_i child found
        have found : (Node.directory none entries).child? name = some child := found
        split at h
        · rename_i last
          subst last
          cases h
          exact ⟨reaches_cons rfl found (absurd rfl) reaches_nil, child,
            (Node.at?_single _ _).trans found, rfl⟩
        rename_i more
        split at h
        · rename_i passes
          obtain ⟨reach, node, there, rfl⟩ := ih.mp h
          refine ⟨reaches_cons rfl found (fun _ => passes) reach, node,
            (Node.at?_cons found rest).trans there, ?_⟩
          rw [if_neg more, List.append_assoc, List.singleton_append]
        · cases h
      · cases h
    · rintro ⟨reach, node, there, rfl⟩
      obtain ⟨entries, rfl⟩ := reach.lists_here
      obtain ⟨child, found, below⟩ := Node.child_of_at? there
      have listed : entries.lookup name = some child := found
      simp only [sight, listed]
      by_cases last : rest = []
      · subst last
        cases Option.some.inj below
        rw [if_pos rfl]
      · rw [if_neg last, if_pos (reach.passes_entry last found)]
        refine ih.mpr ⟨reach.below found, node, below, ?_⟩
        rw [if_neg last, List.append_assoc, List.singleton_append]

/-- A scan looks at just the files that it sees. -/
theorem sight_eq_file (directory : n.isDirectory = true) {content : List UInt8}
    {access : FileAccess} : s.sight front n place = some (.file content access) ↔
      s.Includes front n place ∧ n.at? place = some (.file content access) := by
  rw [sight_eq_some]
  constructor
  · rintro ⟨reach, node, there, same⟩
    have some_ : place ≠ [] := by
      rintro rfl
      cases there
      cases n with
      | directory => cases same
      | _ => cases directory
    rw [if_neg some_] at same
    obtain ⟨rfl, passes⟩ := seen_eq_file.mp same.symm
    exact ⟨⟨reach, content, access, there, passes⟩, there⟩
  · rintro ⟨⟨reach, content', access', there', passes⟩, there⟩
    cases there'.symm.trans there
    refine ⟨reach, _, there, ?_⟩
    rw [if_neg (not_dir_file directory there), seen_eq_file.mpr ⟨rfl, passes⟩]

/-- A scan leaves out just what it sees so. -/
theorem sight_eq_leftOut : s.sight front n place = some .leftOut ↔ s.LeavesOut front n place := by
  rw [sight_eq_some]
  constructor
  · rintro ⟨reach, node, there, same⟩
    by_cases some_ : place = []
    · rw [if_pos some_] at same
      cases node <;> cases same
    · rw [if_neg some_] at same
      exact ⟨reach, some_, node, there, seen_eq_leftOut.mp same.symm⟩
  · rintro ⟨reach, some_, node, there, out⟩
    exact ⟨reach, node, there, by rw [if_neg some_, seen_eq_leftOut.mpr out]⟩

/-! ## Trees that look the same -/

theorem Includes.reaches_front (h : s.Includes front n place) {way : List String}
    (start : way <+: place) : s.Reaches front n way where
  lists front inside proper := h.1.lists front (inside.trans start) fun same =>
    proper (inside.eq_of_length_le (same ▸ start.length_le))
  passes front inside proper := h.1.passes front (inside.trans start) fun same =>
    proper (inside.eq_of_length_le (same ▸ start.length_le))

/-- A scan goes on at everything on the way to a file that it looks at. -/
theorem Includes.passes_front (h : s.Includes front n place) {way : List String}
    (start : way <+: place) (some_ : way ≠ []) (there : n.at? way = some node) :
    s.Passes (front ++ way) node := by
  by_cases last : way = place
  · obtain ⟨content, access, file, passes⟩ := h.2
    rw [last, file] at there
    cases there
    rwa [last]
  · exact h.1.passes way start last some_ node there

section Alike

variable (same : s.sight front n = s.sight front n')

include same

/-- What stands on the way to a file has its like in the other tree. -/
theorem face_alike {way : List String} (included : s.Includes front n place)
    (start : way <+: place) (some_ : way ≠ []) (there : n.at? way = some node) :
    ∃ other, n'.at? way = some other ∧ other.face = node.face := by
  have passes := included.passes_front start some_ there
  have seen : s.sight front n way = some (s.seen (front ++ way) node) :=
    sight_eq_some.mpr ⟨included.reaches_front start, node, there, by rw [if_neg some_]⟩
  rw [same] at seen
  obtain ⟨-, other, there', alike⟩ := sight_eq_some.mp seen
  rw [if_neg some_] at alike
  exact ⟨other, there', (passes_of_seen passes alike.symm).2⟩

/-- The files that a scan looks at have the same order in the other tree. -/
theorem before_alike {u v : List String} (hu : s.Includes front n u) (hv : s.Includes front n v)
    (h : n.Before u v) : n'.Before u v := by
  obtain ⟨way, x, y, u', v', a, b, rfl, rfl, differ, ha, hb, entries⟩ := h
  obtain ⟨a', ha', sameA⟩ := face_alike same hu ⟨u', by simp⟩ (by simp) ha
  obtain ⟨b', hb', sameB⟩ := face_alike same hv ⟨v', by simp⟩ (by simp) hb
  refine ⟨way, x, y, u', v', a', b', rfl, rfl, differ, ha', hb', ?_⟩
  unfold Node.EntryBefore at entries ⊢
  rwa [Node.isDirectory_of_face sameA, Node.isDirectory_of_face sameB]

end Alike

/-! ## Reports -/

theorem Survey.mem_found_iff {found out : List (List String)} {r : Stretch}
    (h : s.Survey d root front n n.entries found out r) (directory : n.isDirectory = true) :
    place ∈ found ↔ s.Includes front n place := by
  refine (h.mem_found place).trans (and_iff_left_of_imp fun included => ?_)
  cases n with
  | directory refusal entries => exact among_of_includes included
  | _ => cases directory

theorem Survey.mem_out_iff {found out : List (List String)} {r : Stretch}
    (h : s.Survey d root front n n.entries found out r) (directory : n.isDirectory = true) :
    place ∈ out ↔ s.LeavesOut front n place := by
  refine (h.mem_out place).trans (and_iff_left_of_imp fun left => ?_)
  cases n with
  | directory refusal entries => exact among_of_leavesOut left
  | _ => cases directory

/-- The result for a file that a scan sees, however its path is shown. -/
def Result (s : Scanner) (front : List String) (n : Node) (place : List String)
    (file : CheckedFile) : Prop :=
  ∃ content access, s.sight front n place = some (.file content access) ∧
    ∀ shown, (s.checker.checkFile shown (Path.joinNames '/' (front ++ place))
      (.file content access)).1 = .ok file

theorem result_unique : Relator.RightUnique (s.Result front n) := by
  rintro place file other ⟨content, access, seen, checked⟩ ⟨_, _, again, rechecked⟩
  cases seen.symm.trans again
  exact Except.ok.inj ((checked "").symm.trans (rechecked ""))

theorem Survey.results {found out : List (List String)} {r : Stretch}
    (h : s.Survey d root front n n.entries found out r) (directory : n.isDirectory = true) :
    List.Forall₂ (s.Result front n) found r.files := by
  obtain ⟨long, each⟩ := List.forall₂_iff_zip.mp h.files
  refine List.forall₂_iff_zip.mpr ⟨long, fun {place file} pair => ?_⟩
  obtain ⟨content, access, log, there, checked⟩ := each pair
  have included := (h.mem_found_iff directory).mp (List.of_mem_zip pair).1
  exact ⟨content, access, (sight_eq_file directory).mpr ⟨included, there⟩,
    Checker.checkFile_shown (congrArg Prod.fst checked)⟩

/-- Surveys of two trees that look the same agree. -/
theorem Survey.alike (same : s.sight front n = s.sight front n')
    {found found' out out' : List (List String)} {r r' : Stretch}
    (directory : n.isDirectory = true) (directory' : n'.isDirectory = true)
    (h : s.Survey d root front n n.entries found out r)
    (h' : s.Survey d' root front n' n'.entries found' out' r') :
    r.files = r'.files ∧ r.excluded = r'.excluded := by
  have included (place : List String) : s.Includes front n place ↔ s.Includes front n' place := by
    constructor
    · intro h
      obtain ⟨content, access, there, -⟩ := h.2
      have seen := (sight_eq_file directory).mpr ⟨h, there⟩
      exact ((sight_eq_file directory').mp (same ▸ seen)).1
    · intro h
      obtain ⟨content, access, there, -⟩ := h.2
      have seen := (sight_eq_file directory').mpr ⟨h, there⟩
      exact ((sight_eq_file directory).mp (same ▸ seen)).1
  have order : found'.Pairwise n.Before := h'.order.imp_of_mem fun hu hv =>
    before_alike same.symm ((h'.mem_found_iff directory').mp hu)
      ((h'.mem_found_iff directory').mp hv)
  obtain rfl : found = found' := Node.row_unique h.order order fun place => by
    rw [h.mem_found_iff directory, h'.mem_found_iff directory', included]
  have left : out.Perm out' :=
    (List.perm_ext_iff_of_nodup h.distinct h'.distinct).mpr fun place => by
    rw [h.mem_out_iff directory, h'.mem_out_iff directory', ← sight_eq_leftOut, same,
      sight_eq_leftOut]
  constructor
  · have results := h'.results directory'
    rw [show s.Result front n' = s.Result front n by unfold Result; rw [same]] at results
    exact result_unique.forall₂ (h.results directory) results
  · rw [h.excluded, h'.excluded, left.length_eq]

theorem check_root {p : Path} {found : Located} {report : ScanReport}
    (resolved : d.resolve p = .ok root) (located : d.findNames root = .ok found)
    (directory : found.node.isDirectory = true) (h : (s.check d p).1 = .ok report) :
    report.root = root := by
  simp only [check, begin, Disk.ifThere, resolved, located, directory, if_true] at h
  split at h
  · cases h
  · cases h
    rfl

theorem check_not_directory {p : Path} {found : Located} (resolved : d.resolve p = .ok root)
    (located : d.findNames root = .ok found) (other : found.node.isDirectory = false) :
    (s.check d p).1 = .ok ⟨root, [], 0⟩ := by
  simp [check, begin, Disk.ifThere, resolved, located, other, collect_nil, Stretch.noted]

/-! ## Lists and opens -/

/-- A scan with some tasks to do comes to a task, unless it ends before that. -/
inductive Does (s : Scanner) (d : Disk) (root : List String) : List Task → Task → Prop where
  | now {t : Task} {rest : List Task} : s.Does d root (t :: rest) t
  | later {t u : Task} {rest : List Task}
      (h : s.Does d root ((s.first d root t).2 ++ rest) u) : s.Does d root (t :: rest) u

/-- A scan comes to what the tasks that it does come to. -/
theorem collect_of_does {s' : Scanner} {tasks : List Task}
    (h : ∀ t, s.Does d root tasks t → s.first d root t = s'.first d' root t) :
    s.collect d root tasks = s'.collect d' root tasks := by
  induction weight : Task.total tasks using Nat.strongRecOn generalizing tasks with
  | ind n ih =>
    subst weight
    cases tasks with
    | nil => rw [collect_nil, collect_nil]
    | cons t rest =>
      have smaller : Task.total ((s.first d root t).2 ++ rest) < Task.total (t :: rest) := by
        have := first_total s d root t
        rw [Task.total_append, Task.total_cons]
        omega
      rw [collect_cons, collect_cons, ← h t .now,
        ih _ smaller (fun u does => h u (.later does)) rfl]

/-- A task lists the directory at a place below the root, or opens the file there. -/
def Touches (s : Scanner) (d : Disk) (root : List String) (t : Task) (place : List String) : Prop :=
  (∃ node, t = .enter (root ++ place) node) ∨
    ∃ node log, t = .visit (root ++ place) node ∧
      ((∃ file, s.perform d root t = (.file file, log)) ∨
        ∃ fault, s.perform d root t = (.fault fault, log))

/-- A scan goes on at everything on the way to a place, the place with it. -/
def Open (s : Scanner) (n : Node) (place : List String) : Prop :=
  ∀ way, way <+: place → way ≠ [] → ∃ node, n.at? way = some node ∧ s.Passes way node

theorem Open.snoc {name : String} (h : s.Open n place)
    (there : n.at? (place ++ [name]) = some node) (passes : s.Passes (place ++ [name]) node) :
    s.Open n (place ++ [name]) := by
  intro way start some_
  rcases List.prefix_concat_iff.mp start with rfl | start
  · exact ⟨node, there, passes⟩
  · exact h way start some_

/-- What a scan of a tree may have to do: list a directory that it goes on at, or look at an entry
of one. -/
inductive Due (s : Scanner) (root : List String) (n : Node) : Task → Prop where
  | enter {place : List String} {node : Node} (there : n.at? place = some node)
      (way : s.Open n place) : s.Due root n (.enter (root ++ place) node)
  | visit {place : List String} {name : String} {node : Node}
      (there : n.at? (place ++ [name]) = some node) (way : s.Open n place) :
      s.Due root n (.visit (root ++ (place ++ [name])) node)

theorem first_visit_file_leads (names : List String) (content : List UInt8) (access : FileAccess) :
    (s.first d root (.visit names (.file content access))).2 = [] := by
  have alone : ∀ more log,
      s.perform d root (.visit names (.file content access)) ≠ (.tasks more, log) := by
    intro more log h
    simp only [perform, Node.isLink, Bool.false_eq_true, if_false] at h
    split at h
    · cases h
    · split at h <;> cases h
  unfold Scanner.first
  split
  · rename_i leads
    exact absurd leads (alone _ _)
  all_goals rfl

/-- A scan of a tree begins with a task that is due. -/
theorem due_root : s.Due root n (.enter root n) := by
  have whole : s.Due root n (.enter (root ++ []) n) :=
    .enter (Node.at?_nil n) fun way front some_ => absurd (List.prefix_nil.mp front) some_
  rwa [List.append_nil] at whole

/-- A task that is due leads to none but such. -/
theorem Due.first (named : n.Named) {t u : Task} (h : s.Due root n t)
    (leads : u ∈ (s.first d root t).2) : s.Due root n u := by
  cases h with
  | @enter place node there way =>
    cases listed : listing d (root ++ place) node with
    | error e => simp [Scanner.first, perform, listed] at leads
    | ok entries =>
      rw [first_enter s d root listed, List.mem_map] at leads
      obtain ⟨e, member, rfl⟩ := leads
      have member : e ∈ node.entries := (listing_perm listed).mem_iff.mp member
      cases node with
      | directory refusal entries =>
        have found := Node.lookup_of_mem (named.nodup there) member
        rw [List.append_assoc]
        exact .visit (Node.at?_snoc there found) way
      | _ => cases member
  | @visit place name node there way =>
    cases plain : node.isLink with
    | true =>
      obtain ⟨log, alone⟩ := first_visit_link s d root plain (place ++ [name])
      simp [alone] at leads
    | false =>
      cases out : s.excludes (Path.joinNames '/' (place ++ [name])) with
      | true =>
        obtain ⟨log, alone⟩ := first_visit_excluded s d root plain out
        simp [alone] at leads
      | false =>
        have passes : s.Passes (place ++ [name]) node := ⟨plain, out⟩
        cases node with
        | directory refusal entries =>
          rw [first_visit_directory s d root passes, List.mem_singleton] at leads
          subst leads
          exact .enter there (way.snoc there passes)
        | pipe | unasked =>
          simp [first_visit_other s d root rfl (by simp) passes] at leads
        | link target => cases plain
        | file content access => simp [first_visit_file_leads] at leads

/-- All that a scan does was due. -/
theorem Does.due (named : n.Named) {tasks : List Task} {t : Task} (h : s.Does d root tasks t)
    (due : ∀ u ∈ tasks, s.Due root n u) : s.Due root n t := by
  induction h with
  | now => exact due _ (by simp)
  | later _ ih =>
    refine ih fun u member => ?_
    rcases List.mem_append.mp member with leads | waits
    · exact (due _ (by simp)).first named leads
    · exact due u (by simp [waits])

theorem perform_visit_passes {node : Node} {outcome : Outcome} {log : Log}
    (h : s.perform d root (.visit (root ++ place) node) = (outcome, log))
    (opened : (∃ file, outcome = .file file) ∨ ∃ fault, outcome = .fault fault) :
    s.Passes place node := by
  simp only [perform, List.drop_left] at h
  split at h
  · cases h
    rcases opened with ⟨_, ⟨⟩⟩ | ⟨_, ⟨⟩⟩
  · rename_i plain
    split at h
    · cases h
      rcases opened with ⟨_, ⟨⟩⟩ | ⟨_, ⟨⟩⟩
    · rename_i kept
      exact ⟨by simpa using plain, by simpa using kept⟩

/-- A scan from a path lists and opens nothing but where it goes on at everything on the way. -/
def KeepsOut (s : Scanner) (d : Disk) (p : Path) (n : Node) : Prop :=
  ∀ root tasks log t place, begin d p = (.ok (root, tasks), log) → s.Does d root tasks t →
    s.Touches d root t place → s.Open n place

theorem keepsOut {p : Path} {found : Located} (resolved : d.resolve p = .ok root)
    (located : d.findNames root = .ok found) (named : found.node.Named) :
    s.KeepsOut d p found.node := by
  intro root' tasks log t place start does touches
  have starts : root' = root ∧ ∀ u ∈ tasks, s.Due root found.node u := by
    simp only [begin, Disk.ifThere, resolved, located] at start
    split at start <;> cases start
    · exact ⟨rfl, by simpa using due_root⟩
    · exact ⟨rfl, by simp⟩
  obtain ⟨rfl, starts⟩ := starts
  have due := does.due named starts
  rcases touches with ⟨node, rfl⟩ | ⟨node, log, rfl, opened⟩
  · generalize names : root' ++ place = at_ at due
    cases due with
    | enter there way => exact List.append_cancel_left names ▸ way
  · generalize names : root' ++ place = at_ at due
    cases due with
    | visit there way =>
      obtain rfl := List.append_cancel_left names
      refine way.snoc there ?_
      rcases opened with ⟨file, outcome⟩ | ⟨fault, outcome⟩
      · exact perform_visit_passes outcome (.inl ⟨file, rfl⟩)
      · exact perform_visit_passes outcome (.inr ⟨fault, rfl⟩)

/-- Scans of trees that look the same have the same report: what a glob takes and where a link
leads has no part in it. They list and open nothing there. -/
theorem check_sight {p : Path} {found found' : Located} (resolved : d.resolve p = .ok root)
    (resolved' : d'.resolve p = .ok root) (located : d.findNames root = .ok found)
    (located' : d'.findNames root = .ok found')
    (same : s.sight [] found.node = s.sight [] found'.node)
    (named : found.node.Named) (named' : found'.node.Named)
    (kinds : ∀ place entries, found.node.at? place = some (.directory none entries) →
      ∀ e ∈ entries, ∃ kind, leadsToDirectory d (root ++ place ++ [e.1]) e.2 = .ok kind)
    (kinds' : ∀ place entries, found'.node.at? place = some (.directory none entries) →
      ∀ e ∈ entries, ∃ kind, leadsToDirectory d' (root ++ place ++ [e.1]) e.2 = .ok kind)
    (settles : ∀ place content access, s.Includes [] found.node place →
      found.node.at? place = some (.file content access) →
      s.checker.Settles (d.display (root ++ place)) (.file content access)) :
    (∃ report, (s.check d p).1 = .ok report ∧ (s.check d' p).1 = .ok report) ∧
      s.KeepsOut d p found.node ∧ s.KeepsOut d' p found'.node := by
  have face : found.node.face = found'.node.face := by
    have here := congrFun same []
    simpa only [sight, Option.some.injEq] using here
  refine ⟨?_, keepsOut resolved located named, keepsOut resolved' located' named'⟩
  cases directory : found.node.isDirectory with
  | false =>
    have directory' := (Node.isDirectory_of_face face).symm.trans directory
    exact ⟨_, check_not_directory resolved located directory,
      check_not_directory resolved' located' directory'⟩
  | true =>
    have directory' := (Node.isDirectory_of_face face).symm.trans directory
    have settles' : ∀ place content access, s.Includes [] found'.node place →
        found'.node.at? place = some (.file content access) →
        s.checker.Settles (d'.display (root ++ place)) (.file content access) := by
      intro place content access included there
      have seen := (sight_eq_file directory').mpr ⟨included, there⟩
      rw [← same] at seen
      obtain ⟨included, there⟩ := (sight_eq_file directory).mp seen
      obtain ⟨file, log, checked⟩ := (settles place content access included there).checkFile ""
      exact Checker.settles_of_checkFile
        (Checker.checkFile_shown (congrArg Prod.fst checked) _)
    obtain ⟨report, log, places, out, whole, survey⟩ :=
      check_survey resolved located directory ⟨named, kinds, settles⟩
    obtain ⟨report', log', places', out', whole', survey'⟩ :=
      check_survey resolved' located' directory' ⟨named', kinds', settles'⟩
    obtain ⟨files, excluded⟩ := survey.alike same directory directory' survey'
    have equal : report = report' := by
      have first := check_root resolved located directory whole
      have second := check_root resolved' located' directory' whole'
      cases report
      cases report'
      simp_all
    exact ⟨report, whole, equal ▸ whole'⟩

/-- A tree with a directory, a link and a file. -/
def veiledTree (refusal : Option DiskCause) (content : List UInt8) (target : String) : Node :=
  .directory none [("old", .directory refusal [("x", .file content .sound)]),
    ("to", .link target), ("b", .file [] (.closed .denied))]

section Veiled

variable {refusal : Option DiskCause} {content : List UInt8} {target : String}

theorem veiledTree_places
    (h : (veiledTree refusal content target).at? place = some node) :
    place = [] ∧ node = veiledTree refusal content target ∨
      place = ["old"] ∧ node = .directory refusal [("x", .file content .sound)] ∨
      place = ["old", "x"] ∧ node = .file content .sound ∨
      place = ["to"] ∧ node = .link target ∨
      place = ["b"] ∧ node = .file [] (.closed .denied) := by
  rcases place with _ | ⟨name, rest⟩
  · simp [← Option.some.inj h]
  obtain ⟨e, member, rfl, below⟩ := Node.entry_of_at? h
  simp only [veiledTree, Node.entries, List.mem_cons, List.not_mem_nil, or_false] at member
  rcases member with rfl | rfl | rfl
  · rcases rest with _ | ⟨name, rest⟩
    · simp [← Option.some.inj below]
    obtain ⟨e, member, rfl, deeper⟩ := Node.entry_of_at? below
    obtain rfl : e = ("x", .file content .sound) := by simpa [Node.entries] using member
    simp [Node.at?_leaf rfl deeper]
  · simp [Node.at?_leaf rfl below]
  · simp [Node.at?_leaf rfl below]

theorem veiledTree_named : (veiledTree refusal content target).Named where
  nodup h := by
    rcases veiledTree_places h with ⟨-, h⟩ | ⟨-, h⟩ | ⟨-, h⟩ | ⟨-, h⟩ | ⟨-, h⟩ <;>
      cases h <;> simp
  free h := by
    rcases veiledTree_places h with ⟨-, h⟩ | ⟨-, h⟩ | ⟨-, h⟩ | ⟨-, h⟩ | ⟨-, h⟩ <;>
      cases h <;> simp

/-- When it can be told where the link leads, the kind of every entry can be told. -/
theorem veiledTree_kinds {kind : Bool}
    (linked : leadsToDirectory ⟨veiledTree refusal content target, [], ""⟩ ["to"] (.link target) =
      .ok kind)
    (place : List String) (entries : List (String × Node))
    (h : (veiledTree refusal content target).at? place = some (.directory none entries))
    (e : String × Node) (member : e ∈ entries) :
    ∃ kind, leadsToDirectory ⟨veiledTree refusal content target, [], ""⟩
      ([] ++ place ++ [e.1]) e.2 = .ok kind := by
  rcases veiledTree_places h with ⟨rfl, h⟩ | ⟨rfl, h⟩ | ⟨-, h⟩ | ⟨-, h⟩ | ⟨-, h⟩ <;> cases h
  · simp only [List.mem_cons, List.not_mem_nil, or_false] at member
    rcases member with rfl | rfl | rfl
    · exact ⟨_, rfl⟩
    · exact ⟨_, linked⟩
    · exact ⟨_, rfl⟩
  · obtain rfl : e = ("x", .file content .sound) := by simpa using member
    exact ⟨_, rfl⟩

/-- A scan that leaves out `old` sees the same whatever that is, and wherever the link leads. -/
theorem veiledTree_sight (place : List String) :
    smallScanner.sight [] (veiledTree refusal content target) place =
      smallScanner.sight [] (veiledTree none [] "") place := by
  have old : smallScanner.excludes (Path.joinNames '/' ["old"]) = true := by cbv
  rcases place with _ | ⟨name, rest⟩
  · rfl
  by_cases first : name = "old"
  · subst first
    simp [veiledTree, sight, List.lookup, seen, Passes, Node.isLink, old]
  by_cases second : name = "to"
  · subst second
    simp [veiledTree, sight, List.lookup, seen, Passes, Node.isLink]
  · simp [veiledTree, sight, List.lookup, beq_eq_false_iff_ne.mpr first,
      beq_eq_false_iff_ne.mpr second]

end Veiled

/-- Two disks that differ in what is left out and in where a link leads. -/
theorem check_sight_veiledTree :
    ∃ report, (smallScanner.check ⟨veiledTree none [9] "/b", [], ""⟩ ⟨"", "/", []⟩).1 =
        .ok report ∧
      (smallScanner.check ⟨veiledTree (some .denied) [] "/old", [], ""⟩ ⟨"", "/", []⟩).1 =
        .ok report := by
  have linked : leadsToDirectory ⟨veiledTree none [9] "/b", [], ""⟩ ["to"] (.link "/b") =
      .ok false := by
    simp [leadsToDirectory, target, Disk.ifThere, Disk.findNames, Disk.walk, veiledTree,
      Disk.Trail.node, Node.isDirectory, Disk.staysPut, Node.child?, Node.entries, Disk.textSteps,
      Disk.isAbsolute, splitAtEach, Disk.linkLimit, List.lookup]
    cbv
  have linked' : leadsToDirectory ⟨veiledTree (some .denied) [] "/old", [], ""⟩ ["to"]
      (.link "/old") = .ok true := by
    simp [leadsToDirectory, target, Disk.ifThere, Disk.findNames, Disk.walk, veiledTree,
      Disk.Trail.node, Node.isDirectory, Disk.staysPut, Node.child?, Node.entries, Disk.textSteps,
      Disk.isAbsolute, splitAtEach, Disk.linkLimit, List.lookup]
    cbv
  have settles (place : List String) (content : List UInt8) (access : FileAccess)
      (included : smallScanner.Includes [] (veiledTree none [9] "/b") place)
      (h : (veiledTree none [9] "/b").at? place = some (.file content access)) :
      smallScanner.checker.Settles (Disk.display ⟨veiledTree none [9] "/b", [], ""⟩ ([] ++ place))
        (.file content access) := by
    rcases veiledTree_places h with ⟨-, h⟩ | ⟨-, h⟩ | ⟨rfl, h⟩ | ⟨-, h⟩ | ⟨-, h⟩ <;> cases h
    · have passes := included.passes_front (show ["old"] <+: ["old", "x"] by simp) (by simp) rfl
      have out : smallScanner.excludes (Path.joinNames '/' ([] ++ ["old"])) = true := by cbv
      exact absurd (out.symm.trans passes.2) (by decide)
    · rintro fault refused
      cases refused
      trivial
  exact (check_sight
    (show Disk.resolve ⟨veiledTree none [9] "/b", [], ""⟩ ⟨"", "/", []⟩ = .ok [] by cbv)
    (show Disk.resolve ⟨veiledTree (some .denied) [] "/old", [], ""⟩ ⟨"", "/", []⟩ = .ok [] by cbv)
    (show Disk.findNames ⟨veiledTree none [9] "/b", [], ""⟩ [] =
      .ok ⟨[], veiledTree none [9] "/b"⟩ by cbv)
    (show Disk.findNames ⟨veiledTree (some .denied) [] "/old", [], ""⟩ [] =
      .ok ⟨[], veiledTree (some .denied) [] "/old"⟩ by cbv)
    (funext fun place => (veiledTree_sight place).trans (veiledTree_sight place).symm)
    veiledTree_named veiledTree_named (veiledTree_kinds linked) (veiledTree_kinds linked')
    settles).1

end Scanner

end TabAudit
