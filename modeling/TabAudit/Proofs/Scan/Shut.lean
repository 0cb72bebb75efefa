import Mathlib.Data.List.Basic
import TabAudit.Proofs.Scan.Collect
import TabAudit.Proofs.Scan.Reach

/-!
# Directories that cannot be listed

Besides one that refuses, a directory cannot be listed where the kind of some entry cannot be told,
as its entries then have no order. A scan does not tell the two apart: it comes to the same on the
tree in which all of these directories refuse.
-/

namespace TabAudit

mutual

/-- The tree in which every directory that cannot be listed refuses to be. -/
def Node.shut (d : Disk) (names : List String) : Node → Node
  | .directory refusal entries =>
    .directory (match Scanner.listing d names (.directory refusal entries) with
      | .ok _ => none
      | .error _ => some (refusal.getD .nameTooLong)) (shutIn d names entries)
  | n => n

/-- The same for the entries of a directory. -/
def shutIn (d : Disk) (names : List String) : List (String × Node) → List (String × Node)
  | [] => []
  | (name, node) :: rest => (name, node.shut d (names ++ [name])) :: shutIn d names rest

end

namespace Node

variable {d : Disk} {names : List String} {n : Node}

@[simp] theorem isLink_shut (d : Disk) (names : List String) (n : Node) :
    (n.shut d names).isLink = n.isLink := by
  cases n <;> simp [shut, isLink]

@[simp] theorem isDirectory_shut (d : Disk) (names : List String) (n : Node) :
    (n.shut d names).isDirectory = n.isDirectory := by
  cases n <;> simp [shut, isDirectory]

theorem shutIn_eq_map (d : Disk) (names : List String) (entries : List (String × Node)) :
    shutIn d names entries = entries.map fun e => (e.1, e.2.shut d (names ++ [e.1])) := by
  induction entries with
  | nil => rw [shutIn, List.map_nil]
  | cons e rest ih => rw [shutIn, ih, List.map_cons]

theorem entries_shut (d : Disk) (names : List String) (n : Node) :
    (n.shut d names).entries = n.entries.map fun e => (e.1, e.2.shut d (names ++ [e.1])) := by
  cases n <;> simp [shut, entries, shutIn_eq_map]

theorem child?_shut (d : Disk) (names : List String) (n : Node) (name : String) :
    (n.shut d names).child? name = (n.child? name).map (shut d (names ++ [name])) := by
  unfold child?
  rw [entries_shut]
  induction n.entries with
  | nil => rfl
  | cons e rest ih =>
    obtain ⟨key, child⟩ := e
    simp only [List.map_cons, List.lookup_cons]
    cases same : name == key with
    | true =>
      obtain rfl : name = key := by simpa using same
      rfl
    | false => exact ih

theorem at?_shut (d : Disk) (names : List String) (n : Node) (place : List String) :
    (n.shut d names).at? place = (n.at? place).map (shut d (names ++ place)) := by
  induction place generalizing n names with
  | nil => simp
  | cons name rest ih =>
    unfold at?
    rw [child?_shut]
    cases n.child? name with
    | none => rfl
    | some child => simp [ih]

/-- A directory of the tree that can be listed could be listed before. -/
theorem listed_of_shut {entries : List (String × Node)}
    (h : n.shut d names = .directory none entries) :
    ∃ before listed, n = .directory none before ∧ Scanner.listing d names n = .ok listed := by
  cases n with
  | directory refusal before =>
    rw [shut] at h
    cases listed : Scanner.listing d names (.directory refusal before) with
    | error e => simp [listed] at h
    | ok listed =>
      cases refusal with
      | none => exact ⟨before, _, rfl, rfl⟩
      | some cause => simp [Scanner.listing] at listed
  | _ => simp [shut] at h

theorem shut_of_listed {before listed : List (String × Node)}
    (h : Scanner.listing d names (.directory none before) = .ok listed) :
    (Node.directory none before).shut d names = .directory none (shutIn d names before) := by
  rw [shut, h]

theorem Named.shut (h : n.Named) (d : Disk) (names : List String) : (n.shut d names).Named := by
  have before {place : List String} {refusal : Option DiskCause} {entries : List (String × Node)}
      (here : (n.shut d names).at? place = some (.directory refusal entries)) :
      ∃ refusal before, n.at? place = some (.directory refusal before) ∧
        entries = shutIn d (names ++ place) before := by
    rw [at?_shut, Option.map_eq_some_iff] at here
    obtain ⟨node, there, here⟩ := here
    cases node with
    | directory refusal before =>
      rw [Node.shut] at here
      exact ⟨refusal, before, there, (Node.directory.inj here).2.symm⟩
    | _ => simp [Node.shut] at here
  constructor
  · intro place refusal entries here
    obtain ⟨refusal, before, there, rfl⟩ := before here
    rw [shutIn_eq_map, List.map_map]
    exact h.nodup there
  · intro place refusal entries here e member
    obtain ⟨refusal, before, there, rfl⟩ := before here
    rw [shutIn_eq_map, List.mem_map] at member
    obtain ⟨e, member, rfl⟩ := member
    exact h.free there e member

theorem shut_eq_file {content : List UInt8} {access : FileAccess} :
    n.shut d names = .file content access ↔ n = .file content access := by
  cases n <;> simp [shut]

end Node

namespace Scanner

variable {s : Scanner} {d : Disk} {root names front : List String} {n : Node}

/-! ## Where a scan comes to -/

/-- Whether every directory on the way to a place can be listed. -/
def Listed (d : Disk) (names : List String) (n : Node) (place : List String) : Prop :=
  ∀ way, way <+: place → way ≠ place → ∀ node, n.at? way = some node →
    ∃ entries, listing d (names ++ way) node = .ok entries

/-- An entry of a directory that can be listed. -/
theorem listed_single {name : String} {entries : List (String × Node)}
    (listed : listing d names n = .ok entries) : Listed d names n [name] := by
  intro way front proper node there
  rcases List.prefix_cons_iff.mp front with rfl | ⟨way, rfl, inner⟩
  · cases there
    exact ⟨entries, by rwa [List.append_nil]⟩
  · rw [List.prefix_nil.mp inner] at proper
    exact absurd rfl proper

theorem includes_shut {place : List String} :
    s.Includes front (n.shut d names) place ↔
      s.Includes front n place ∧ Listed d names n place := by
  constructor
  · rintro ⟨⟨lists, passes⟩, content, access, file, last⟩
    rw [Node.at?_shut, Option.map_eq_some_iff] at file
    obtain ⟨node, there, file⟩ := file
    rw [Node.shut_eq_file] at file
    have listed (way : List String) (front : way <+: place) (proper : way ≠ place) :
        ∃ before listed, n.at? way = some (.directory none before) ∧
          listing d (names ++ way) (.directory none before) = .ok listed := by
      obtain ⟨entries, here⟩ := lists way front proper
      rw [Node.at?_shut, Option.map_eq_some_iff] at here
      obtain ⟨node, there, here⟩ := here
      obtain ⟨before, listed, rfl, ok⟩ := Node.listed_of_shut here
      exact ⟨before, listed, there, ok⟩
    refine ⟨⟨⟨fun way front proper => ?_, fun way front proper some_ node there => ?_⟩,
      content, access, file ▸ there, last⟩, fun way front proper node there => ?_⟩
    · obtain ⟨before, -, here, -⟩ := listed way front proper
      exact ⟨before, here⟩
    · have shut : (n.shut d names).at? way = some (node.shut d (names ++ way)) := by
        rw [Node.at?_shut, there, Option.map_some]
      have passes := passes way front proper some_ _ shut
      exact ⟨(Node.isLink_shut d _ node).symm.trans passes.1, passes.2⟩
    · obtain ⟨before, listed, here, ok⟩ := listed way front proper
      obtain rfl := Option.some.inj (there.symm.trans here)
      exact ⟨listed, ok⟩
  · rintro ⟨⟨⟨lists, passes⟩, content, access, file, last⟩, listed⟩
    refine ⟨⟨fun way front proper => ?_, fun way front proper some_ node there => ?_⟩,
      content, access, by simp [Node.at?_shut, file, Node.shut], last⟩
    · obtain ⟨before, here⟩ := lists way front proper
      obtain ⟨entries, ok⟩ := listed way front proper _ here
      exact ⟨_, by rw [Node.at?_shut, here, Option.map_some, Node.shut_of_listed ok]⟩
    · rw [Node.at?_shut, Option.map_eq_some_iff] at there
      obtain ⟨node, there, rfl⟩ := there
      have passes := passes way front proper some_ node there
      exact ⟨(Node.isLink_shut d _ node).trans passes.1, passes.2⟩

/-! ## What a scan comes to -/

theorem leadsToDirectory_shut (place : List String) (node : Node) :
    leadsToDirectory d place (node.shut d names) = leadsToDirectory d place node := by
  cases node with
  | directory refusal entries =>
    by_cases long : Disk.pathLimit ≤ (d.display place).utf8ByteSize
    · simp only [leadsToDirectory, Node.shut, target, if_pos long]
    · simp only [leadsToDirectory, Node.shut, target, if_neg long]
      rfl
  | _ => rfl

/-- An entry with its rank, in the tree where directories refuse. -/
def Ranked.shut (d : Disk) (names : List String) (r : Ranked) : Ranked :=
  { r with node := r.node.shut d (names ++ [r.name]) }

theorem rank_shut (entries : List (String × Node)) :
    rank d names (shutIn d names entries) =
      (rank d names entries).map (List.map (Ranked.shut d names)) := by
  induction entries with
  | nil => rfl
  | cons e rest ih =>
    obtain ⟨name, node⟩ := e
    rw [shutIn, rank, rank, leadsToDirectory_shut, ih]
    cases leadsToDirectory d (names ++ [name]) node with
    | error e => rfl
    | ok kind => cases rank d names rest <;> rfl

/-- In a directory that can be listed the kind of every entry can be told. -/
theorem kinds_of_listing {entries listed : List (String × Node)}
    (h : listing d names (.directory none entries) = .ok listed) :
    ∀ e ∈ entries, ∃ kind, leadsToDirectory d (names ++ [e.1]) e.2 = .ok kind := by
  have ranks : ∃ ranked, rank d names entries = .ok ranked := by
    rw [listing] at h
    split at h
    · cases h
    · rename_i ranked ranks
      exact ⟨ranked, ranks⟩
  clear h
  induction entries with
  | nil => simp
  | cons e rest ih =>
    obtain ⟨ranked, ranks⟩ := ranks
    rw [rank] at ranks
    split at ranks
    · cases ranks
    · rename_i kind told
      split at ranks
      · cases ranks
      · rename_i later others
        exact List.forall_mem_cons.mpr ⟨⟨kind, told⟩, ih ⟨later, others⟩⟩

theorem listing_shut {listed : List (String × Node)} (h : listing d names n = .ok listed) :
    listing d names (n.shut d names) = .ok (shutIn d names listed) := by
  have whole := h
  unfold listing at h
  split at h
  · rename_i entries
    split at h
    · cases h
    · rename_i ranked ranks
      cases h
      rw [Node.shut_of_listed whole, listing, rank_shut, ranks]
      have sorts : ((ranked.mergeSort Ranked.le).map (Ranked.shut d names)) =
          (ranked.map (Ranked.shut d names)).mergeSort Ranked.le :=
        List.map_mergeSort fun _ _ _ _ => rfl
      simp only [Except.map, ← sorts, Node.shutIn_eq_map, List.map_map]
      rfl
  · cases h
  · cases h

theorem listing_shut_error {e : DiskError} (h : listing d names n = .error e) :
    ∃ e', listing d names (n.shut d names) = .error e' := by
  cases n with
  | directory refusal entries => exact ⟨_, by rw [Node.shut, h, listing]⟩
  | file content access => exact ⟨e, h⟩
  | link target => exact ⟨e, h⟩
  | pipe | unasked => exact ⟨e, h⟩

end Scanner

/-- The same task in the tree where directories refuse. -/
def Task.shut (d : Disk) : Task → Task
  | .enter names node => .enter names (node.shut d names)
  | .visit names node => .visit names (node.shut d names)

/-- Two stretches that differ in what the log says at most. -/
structure Stretch.Agrees (a b : Stretch) : Prop where
  files : a.files = b.files
  excluded : a.excluded = b.excluded
  fault : a.fault = b.fault

theorem Stretch.Agrees.andThen {a b a' b' : Stretch} (h : a.Agrees b) (h' : a'.Agrees b') :
    (a.andThen a').Agrees (b.andThen b') := by
  unfold Stretch.andThen
  rw [h.fault]
  cases b.fault with
  | some fault => exact h
  | none =>
    exact ⟨congrArg₂ (· ++ ·) h.files h'.files, congrArg₂ (· + ·) h.excluded h'.excluded, h'.fault⟩

namespace Scanner

variable {s : Scanner} {d : Disk} {root names : List String} {n : Node}

theorem first_shut (s : Scanner) (d : Disk) (root : List String) (t : Task) :
    (s.first d root (t.shut d)).1.Agrees (s.first d root t).1 ∧
      (s.first d root (t.shut d)).2 = (s.first d root t).2.map (Task.shut d) := by
  have unchanged {t : Task} (same : t.shut d = t) (alone : (s.first d root t).2 = []) :
      (s.first d root (t.shut d)).1.Agrees (s.first d root t).1 ∧
        (s.first d root (t.shut d)).2 = (s.first d root t).2.map (Task.shut d) := by
    rw [same, alone]
    exact ⟨⟨rfl, rfl, rfl⟩, rfl⟩
  cases t with
  | enter names node =>
    cases listed : listing d names node with
    | error e =>
      obtain ⟨e', shut⟩ := listing_shut_error listed
      simp only [Task.shut, first, perform, listed, shut]
      exact ⟨⟨rfl, rfl, rfl⟩, rfl⟩
    | ok entries =>
      have shut := listing_shut listed
      simp only [Task.shut, first, perform, listed, shut, Node.shutIn_eq_map, List.map_map]
      exact ⟨⟨rfl, rfl, rfl⟩, rfl⟩
  | visit names node =>
    -- Only a directory is changed, and its visit leads to the changed task.
    cases node with
    | directory refusal entries =>
      by_cases out : s.excludes (Path.joinNames '/' (names.drop root.length)) = true
      · simp only [Task.shut, Node.shut, first, perform, Node.isLink, out]
        exact ⟨⟨rfl, rfl, rfl⟩, rfl⟩
      · simp only [Task.shut, Node.shut, first, perform, Node.isLink, out]
        exact ⟨⟨rfl, rfl, rfl⟩, by simp [Task.shut, Node.shut]⟩
    | file content access =>
      refine unchanged rfl ?_
      unfold first perform
      dsimp only
      split_ifs
      · rfl
      · rfl
      · rcases s.checker.checkFile (d.display names)
          (Path.joinNames '/' (names.drop root.length)) (.file content access) with ⟨_ | _, log⟩
        · rfl
        · rfl
    | link target => exact unchanged rfl rfl
    | pipe | unasked =>
      refine unchanged rfl ?_
      unfold first perform
      dsimp only
      split_ifs <;> rfl

/-- A scan comes to the same where the directories that cannot be listed refuse. -/
theorem collect_shut (s : Scanner) (d : Disk) (root : List String) (tasks : List Task) :
    (s.collect d root (tasks.map (Task.shut d))).Agrees (s.collect d root tasks) := by
  induction h : Task.total tasks using Nat.strongRecOn generalizing tasks with
  | ind size ih =>
    subst h
    cases tasks with
    | nil => exact ⟨rfl, rfl, rfl⟩
    | cons t rest =>
      obtain ⟨same, more⟩ := first_shut s d root t
      have smaller : Task.total ((s.first d root t).2 ++ rest) < Task.total (t :: rest) := by
        have := first_total s d root t
        rw [Task.total_append, Task.total_cons]
        omega
      rw [List.map_cons, collect_cons, collect_cons, more, ← List.map_append]
      exact same.andThen (ih _ smaller _ rfl)

end Scanner

end TabAudit
