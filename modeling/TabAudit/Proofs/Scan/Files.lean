import Mathlib
import TabAudit.Proofs.Faults
import TabAudit.Proofs.Scan.Coverage
import TabAudit.Proofs.Scan.Shut
import TabAudit.Proofs.Scan.Walk

/-!
# No file stops a scan

A walk comes to an end just if none of the files it comes to is checked with a fault that a scan
does not expect, and then it gives one result for each of them. What else is in the tree has no part
in a result: it is that of a scan of a tree with nothing in it but the file. Of the encodings that
are known here, only those that need a mark have such a fault, and only on a file that starts with
none.
-/

namespace TabAudit

/-! ## A tree with one file -/

/-- The tree with nothing in it but this at a place. -/
def Node.only (node : Node) : List String → Node
  | [] => node
  | name :: rest => .directory none [(name, node.only rest)]

namespace Node

variable {node other : Node} {place way : List String}

theorem at?_only (node : Node) (name : String) (place way : List String) :
    (node.only (name :: place)).at? (name :: way) = (node.only place).at? way :=
  at?_cons (by simp [only, child?, entries]) way

/-- Something stands in the tree just on the way to the place. -/
theorem at?_only_eq {content : List UInt8} {access : FileAccess}
    (h : ((Node.file content access).only place).at? way = some other) :
    ∃ rest, place = way ++ rest ∧ other = (Node.file content access).only rest := by
  induction way generalizing place with
  | nil => exact ⟨place, rfl, (Option.some.inj h).symm⟩
  | cons name way ih =>
    cases place with
    | nil => simp [only, at?, child?, entries] at h
    | cons first place =>
      obtain ⟨e, member, rfl, below⟩ := entry_of_at? h
      obtain rfl : e = (first, (Node.file content access).only place) := by
        simpa [only, entries] using member
      obtain ⟨rest, rfl, there⟩ := ih below
      exact ⟨rest, rfl, there⟩

theorem at?_only_append (node : Node) (way rest : List String) :
    (node.only (way ++ rest)).at? way = some (node.only rest) := by
  induction way with
  | nil => rfl
  | cons name way ih => rw [List.cons_append, at?_only, ih]

theorem isLink_only {content : List UInt8} {access : FileAccess} (place : List String) :
    ((Node.file content access).only place).isLink = false := by
  cases place <;> rfl

theorem named_only {content : List UInt8} {access : FileAccess}
    (free : ∀ name ∈ place, '/' ∉ name.toList) : ((Node.file content access).only place).Named where
  nodup h := by
    obtain ⟨rest, -, here⟩ := at?_only_eq h
    cases rest with
    | nil => cases here
    | cons name rest =>
      cases here
      simp
  free h e member := by
    obtain ⟨rest, rfl, here⟩ := at?_only_eq h
    cases rest with
    | nil => cases here
    | cons name rest =>
      cases here
      obtain rfl : e = (name, (Node.file content access).only rest) := by simpa using member
      exact free name (by simp)

end Node

namespace Checker

/-- How a file is shown in the log has no part in its result. -/
theorem checkFile_shown {c : Checker} {shown path : String} {content : List UInt8}
    {access : FileAccess} {file : CheckedFile}
    (h : (c.checkFile shown path (.file content access)).1 = .ok file) (other : String) :
    (c.checkFile other path (.file content access)).1 = .ok file := by
  by_cases opened : ∀ cause, access ≠ .closed cause
  · have node : (c.checkNode shown (.file content access)).1 =
        (c.check (Node.source content access)).1.mapError .check := checkNode_opened opened
    have node' : (c.checkNode other (.file content access)).1 =
        (c.check (Node.source content access)).1.mapError .check := checkNode_opened opened
    cases checked : (c.check (Node.source content access)).1 with
    | ok tabs =>
      rw [checked] at node node'
      rw [checkFile_of_ok node] at h
      rw [checkFile_of_ok node', ← h]
    | error e =>
      rw [checked] at node node'
      rw [checkFile_of_error node] at h
      rw [checkFile_of_error node', ← h]
      -- The text shown is in the record alone.
      cases e with
      | opening fault => rfl
      | reading fault => cases fault <;> rfl
      | decoding fault =>
        simp only [FileFault.settled?]
        cases fault.kind <;> rfl
  · obtain ⟨cause, rfl⟩ : ∃ cause, access = .closed cause := by simpa using opened
    have unreadable (shown : String) :
        (c.checkFile shown path (.file content (.closed cause))).1 =
          .ok ⟨path, .unreadable, []⟩ := by
      rw [checkFile_of_error rfl]
      cases cause <;> rfl
    rw [unreadable] at h ⊢
    exact h

theorem settles_of_checkFile {c : Checker} {shown path : String} {node : Node} {file : CheckedFile}
    (h : (c.checkFile shown path node).1 = .ok file) : c.Settles shown node := by
  intro fault failed
  rw [checkFile_of_error failed] at h
  refine (fault.settled?_isSome c.encodingName shown path).mp ?_
  cases settled : fault.settled? c.encodingName shown path with
  | none => simp [settled] at h
  | some out => rfl

end Checker

namespace Scanner

variable {s : Scanner} {d : Disk} {root place : List String} {n : Node} {content : List UInt8}
  {access : FileAccess}

theorem includes_only (included : s.Includes [] n place)
    (file : n.at? place = some (.file content access)) (other : List String) :
    s.Includes [] ((Node.file content access).only place) other ↔ other = place := by
  constructor
  · rintro ⟨-, content', access', there, -⟩
    obtain ⟨rest, rfl, here⟩ := Node.at?_only_eq there
    cases rest with
    | nil => exact (List.append_nil other).symm
    | cons name rest => cases here
  · rintro rfl
    obtain ⟨reach, content', access', there, last⟩ := included
    obtain ⟨rfl, rfl⟩ : content' = content ∧ access' = access := by simpa [there] using file
    have self := Node.at?_only_append (.file content' access') other []
    rw [List.append_nil] at self
    refine ⟨⟨fun way front proper => ?_, fun way front proper some_ node here => ?_⟩, content',
      access', self, last⟩
    · obtain ⟨_ | ⟨name, rest⟩, rfl⟩ := front
      · exact absurd (List.append_nil way).symm proper
      · exact ⟨_, Node.at?_only_append (.file content' access') way (name :: rest)⟩
    · -- The same way leads through directories in the whole tree.
      obtain ⟨entries, whole⟩ := reach.lists way front proper
      obtain ⟨rest, -, rfl⟩ := Node.at?_only_eq here
      exact ⟨Node.isLink_only rest, (reach.passes way front proper some_ _ whole).2⟩

theorem smooth_only (included : s.Includes [] n place)
    (file : n.at? place = some (.file content access)) (named : n.Named)
    (listed : Listed d root ((Node.file content access).only place) place)
    (settles : ∀ shown, s.checker.Settles shown (.file content access)) :
    s.Smooth d root [] ((Node.file content access).only place) where
  named := Node.named_only (named.free_of_at? file)
  kinds way entries here := by
    obtain ⟨rest, rfl, only⟩ := Node.at?_only_eq here
    cases rest with
    | nil => cases only
    | cons name rest =>
      obtain ⟨row, ok⟩ := listed way ⟨_, rfl⟩ (by simp) _ here
      exact kinds_of_listing ok
  settles other content' access' inside there := by
    obtain rfl := (includes_only included file other).mp inside
    have self := Node.at?_only_append (.file content access) other []
    rw [List.append_nil, there] at self
    cases self
    exact settles _

/-- A scan that comes to nothing but a file gives its result. -/
theorem check_only {p : Path} {found : Located} {file : CheckedFile} {shown : String}
    (included : s.Includes [] n place) (there : n.at? place = some (.file content access))
    (named : n.Named) (some_ : place ≠ [])
    (checked : (s.checker.checkFile shown (Path.joinNames '/' place) (.file content access)).1 =
      .ok file)
    (resolved : d.resolve p = .ok root) (located : d.findNames root = .ok found)
    (alone : found.node = (Node.file content access).only place)
    (listed : Listed d root found.node place) :
    ∃ report, (s.check d p).1 = .ok report ∧ report.files = [file] := by
  have settles (shown : String) : s.checker.Settles shown (.file content access) :=
    Checker.settles_of_checkFile (Checker.checkFile_shown checked shown)
  have directory : found.node.isDirectory = true := by
    cases place with
    | nil => exact absurd rfl some_
    | cons name rest => rw [alone]; rfl
  obtain ⟨report, log, places, out, whole, survey⟩ := check_survey resolved located directory
    (alone ▸ smooth_only included there named (alone ▸ listed) settles)
  rw [alone] at survey
  have among : Among ((Node.file content access).only place).entries place := by
    cases place with
    | nil => exact absurd rfl some_
    | cons name rest => exact ⟨_, List.mem_singleton_self _, rest, rfl⟩
  have one : places = [place] := by
    refine List.perm_singleton.mp ((List.perm_ext_iff_of_nodup
      (survey.order.imp fun before => before.ne) (List.nodup_singleton place)).mpr fun other => ?_)
    rw [survey.mem_found, includes_only included there, List.mem_singleton]
    exact and_iff_left_of_imp fun same => same ▸ among
  have files := survey.files
  rw [one] at files
  obtain ⟨other, rest, ⟨content', access', log', at_, result⟩, nothing, same⟩ :=
    List.forall₂_cons_left_iff.mp files
  have self := Node.at?_only_append (.file content access) place []
  rw [List.append_nil, at_] at self
  cases self
  have given := Checker.checkFile_shown (congrArg Prod.fst result) shown
  have equal : other = file := Except.ok.inj (given.symm.trans checked)
  rw [List.forall₂_nil_left_iff] at nothing
  exact ⟨report, whole, by rw [← equal, ← nothing]; exact same⟩

/-! ## Every file of a tree -/

/-- In the tree where the directories that cannot be listed refuse, nothing is in the way of a
scan. -/
theorem smooth_shut (named : n.Named)
    (settles : ∀ place content access, s.Includes [] n place → Listed d root n place →
      n.at? place = some (.file content access) →
      s.checker.Settles (d.display (root ++ place)) (.file content access)) :
    s.Smooth d root [] (n.shut d root) where
  named := named.shut d root
  kinds place entries here e member := by
    rw [Node.at?_shut, Option.map_eq_some_iff] at here
    obtain ⟨node, -, here⟩ := here
    obtain ⟨before, listed, rfl, ok⟩ := Node.listed_of_shut here
    rw [Node.shut_of_listed ok, Node.directory.injEq, Node.shutIn_eq_map] at here
    rw [← here.2, List.mem_map] at member
    obtain ⟨e, member, rfl⟩ := member
    obtain ⟨kind, told⟩ := kinds_of_listing ok e member
    exact ⟨kind, (leadsToDirectory_shut _ _).trans told⟩
  settles place content access included there := by
    rw [Node.at?_shut, Option.map_eq_some_iff] at there
    obtain ⟨node, there, file⟩ := there
    rw [Node.shut_eq_file] at file
    obtain ⟨included, listed⟩ := includes_shut.mp included
    exact settles place content access included listed (file ▸ there)

/-- The survey of a scan from a directory where every file settles. -/
theorem survey_shut (directory : n.isDirectory = true) (named : n.Named)
    (settles : ∀ place content access, s.Includes [] n place → Listed d root n place →
      n.at? place = some (.file content access) →
      s.checker.Settles (d.display (root ++ place)) (.file content access)) :
    ∃ places out, s.Survey d root [] (n.shut d root) (n.shut d root).entries places out
        (s.collect d root [.enter root n]) ∧
      ∀ place, place ∈ places ↔ s.Includes [] n place ∧ Listed d root n place := by
  obtain ⟨places, out, survey⟩ := survey_enter (smooth_shut named settles)
    ((Node.isDirectory_shut d root n).trans directory)
  rw [collect_enter_root] at survey
  have same := collect_shut s d root [.enter root n]
  refine ⟨places, out, survey.congr same.fault.symm same.files.symm same.excluded.symm,
    fun place => ?_⟩
  rw [survey.mem_found, ← includes_shut]
  refine and_iff_left_of_imp fun included => ?_
  cases n with
  | directory refusal entries =>
    rw [Node.shut] at included ⊢
    exact among_of_includes included
  | _ => cases directory

theorem first_visit_fault {fault : FileFault} (passes : s.Passes place (.file content access))
    (failed : (s.checker.checkFile (d.display (root ++ place)) (Path.joinNames '/' place)
      (.file content access)).1 = .error fault) :
    ∃ log, s.first d root (.visit (root ++ place) (.file content access)) =
      (⟨log, [], 0, some (.file fault)⟩, []) := by
  rcases checked : s.checker.checkFile (d.display (root ++ place)) (Path.joinNames '/' place)
    (.file content access) with ⟨outcome, log⟩
  rw [checked] at failed
  obtain rfl : outcome = .error fault := failed
  exact ⟨log, by simp [first, perform, passes.1, passes.2, checked]⟩

/-- A scan without a fault had none at any of its tasks. -/
theorem sound_of_mem {tasks : List Task} {t : Task} (h : (s.collect d root tasks).fault = none)
    (member : t ∈ tasks) : (s.collect d root [t]).fault = none := by
  have parts {a b : Stretch} (sound : (a.andThen b).fault = none) :
      a.fault = none ∧ b.fault = none := by
    cases fault : a.fault with
    | some other => simp [Stretch.andThen, fault] at sound
    | none => exact ⟨rfl, by simpa [Stretch.andThen, fault] using sound⟩
  obtain ⟨before, after, rfl⟩ := List.append_of_mem member
  rw [← List.singleton_append, collect_append, collect_append] at h
  exact (parts (parts h).2).1

/-- A scan below a directory has no fault only if every file that it comes to settles. -/
theorem settles_of_sound {front : List String}
    (sound : (s.collect d root [.enter (root ++ front) n]).fault = none)
    (included : s.Includes front n place) (listed : Listed d (root ++ front) n place)
    (some_ : place ≠ []) (there : n.at? place = some (.file content access)) :
    s.checker.Settles (d.display (root ++ (front ++ place))) (.file content access) := by
  induction place generalizing n front with
  | nil => exact absurd rfl some_
  | cons name rest ih =>
    obtain ⟨entries, child, here, found, passes, below⟩ := includes_cons.mp included
    obtain ⟨row, ok⟩ := listed [] List.nil_prefix (by simp) n (Node.at?_nil n)
    rw [List.append_nil] at ok
    have member : (name, child) ∈ row := (listing_perm ok).mem_iff.mpr (Node.mem_of_lookup found)
    rw [(collect_of_noted s d root (first_enter s d root ok)).1] at sound
    have visited := sound_of_mem sound (List.mem_map.mpr ⟨_, member, rfl⟩)
    rw [Node.at?_cons found] at there
    rw [List.append_assoc] at visited
    cases rest with
    | nil =>
      cases there
      cases checked : (s.checker.checkFile (d.display (root ++ (front ++ [name])))
        (Path.joinNames '/' (front ++ [name])) (.file content access)).1 with
      | ok file => exact Checker.settles_of_checkFile checked
      | error fault =>
        obtain ⟨log, fails⟩ := first_visit_fault passes checked
        rw [collect_single, fails] at visited
        cases visited
    | cons next rest =>
      -- Something stands below the entry, so it is a directory, and is entered.
      obtain ⟨entries, -, rfl, -⟩ := includes_cons.mp below
      rw [(collect_of_noted s d root (first_visit_directory s d root passes)).1] at visited
      have entries_listed : Listed d (root ++ (front ++ [name])) (.directory none entries)
          (next :: rest) := by
        intro way start proper node here
        obtain ⟨row, ok⟩ := listed (name :: way) (by simpa using start) (by simpa using proper) node
          ((Node.at?_cons found way).trans here)
        exact ⟨row, by simpa using ok⟩
      have settles := ih visited below entries_listed (by simp) there
      rwa [List.append_assoc, List.singleton_append] at settles

/-- A scan of a directory has no fault just if every file that it comes to settles. -/
theorem sound_iff (directory : n.isDirectory = true) (named : n.Named) :
    (s.collect d root [.enter root n]).fault = none ↔
      ∀ place content access, s.Includes [] n place → Listed d root n place →
        n.at? place = some (.file content access) →
        s.checker.Settles (d.display (root ++ place)) (.file content access) := by
  constructor
  · intro sound place content access included listed there
    have begun : (s.collect d root [.enter (root ++ []) n]).fault = none := by
      rwa [List.append_nil]
    have below := settles_of_sound begun included (by rwa [List.append_nil])
      (not_dir_file directory there) there
    rwa [List.nil_append] at below
  · intro settles
    obtain ⟨places, out, survey, -⟩ := survey_shut directory named settles
    exact survey.fault

end Scanner

end TabAudit
