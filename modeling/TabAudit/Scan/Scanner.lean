import TabAudit.Disk.Resolve
import TabAudit.Glob.Collection
import TabAudit.Scan.File
/-!
# Scanning a tree

A scan goes through a directory depth first, directories before files, each kind in the order of
the names. Symbolic links are passed over, and so is everything an exclusion glob matches; nothing
below such an entry is looked at. What is left to do is a list of tasks, so a scan can rest after
each file.
-/

namespace TabAudit

/-- A scanner: how files are checked, and what is left out. -/
structure Scanner where
  checker : Checker
  patterns : List Pattern

/-- Why there is no scanner for some settings. -/
inductive ScannerFault where
  | checker (fault : CheckerFault)
  | globs (error : CollectionError)
  deriving Repr

def ScannerFault.message : ScannerFault → String
  | .checker fault => fault.message
  | .globs error => error.message

/-- Why a scan ends early. -/
inductive ScanFault where
  | resolving (error : Disk.ResolveError)
  | disk (error : DiskError)
  | file (fault : FileFault)
  deriving DecidableEq, Repr

def ScanFault.message : ScanFault → String
  | .resolving error => error.message
  | .disk error => error.message
  | .file fault => fault.message

/-! ## The amount of work in a tree -/

mutual

/-- The number of tasks that listing a node can lead to, with that of listing it. -/
def Node.tasks : Node → Nat
  | .directory _ entries => 1 + tasksIn entries
  | _ => 1

/-- The number of tasks that the entries of a directory can lead to. -/
def tasksIn : List (String × Node) → Nat
  | [] => 0
  | (_, node) :: rest => (1 + node.tasks) + tasksIn rest

end

theorem tasksIn_perm {a b : List (String × Node)} (h : a.Perm b) : tasksIn a = tasksIn b := by
  induction h with
  | nil => rfl
  | cons e _ ih => rw [tasksIn, tasksIn, ih]
  | swap e f rest =>
    simp only [tasksIn]
    omega
  | trans _ _ ih₁ ih₂ => rw [ih₁, ih₂]

theorem tasksIn_entries (node : Node) : tasksIn node.entries < node.tasks := by
  cases node <;> simp [Node.entries, Node.tasks, tasksIn]

/-- Something a scan has yet to do. -/
inductive Task where
  /-- List a directory. -/
  | enter (names : List String) (node : Node)
  /-- Look at an entry of a directory. -/
  | visit (names : List String) (node : Node)
  deriving Repr

/-- The number of tasks that a task can lead to, with itself. -/
def Task.weight : Task → Nat
  | .enter _ node => node.tasks
  | .visit _ node => 1 + node.tasks

/-- The number of tasks that tasks can lead to, with themselves. -/
def Task.total : List Task → Nat
  | [] => 0
  | t :: rest => t.weight + total rest

theorem Task.weight_pos (t : Task) : 0 < t.weight := by
  cases t with
  | enter names node => have := tasksIn_entries node; simp only [Task.weight]; omega
  | visit names node => simp only [Task.weight]; omega

theorem Task.total_cons (t : Task) (rest : List Task) :
    Task.total (t :: rest) = t.weight + Task.total rest := rfl

theorem Task.total_append (a b : List Task) :
    Task.total (a ++ b) = Task.total a + Task.total b := by
  induction a with
  | nil => exact (Nat.zero_add _).symm
  | cons t rest ih => rw [List.cons_append, total, total, ih, Nat.add_assoc]

/-- Looking at the entries of a directory is the work that its entries can lead to. -/
theorem Task.total_visits (names : List String) (entries : List (String × Node)) :
    Task.total (entries.map fun (name, node) => .visit (names ++ [name]) node) =
      tasksIn entries := by
  induction entries with
  | nil => rfl
  | cons e rest ih => rw [List.map_cons, total, ih, tasksIn, weight]

namespace Scanner

/-- The encoding that files have when none is set. -/
def platformEncoding : String := "utf-8"

/-- What the log says when no encoding is set. -/
def platformWarning : LogRecord :=
  Log.warning (s!"Using platform encoding {platformEncoding} for checking tabs - " ++
    "your build is platform-dependent! (Set the scan encoding to correct this.)")

/-- The scanner for some settings. -/
def make [Runtime] (globs : Value) (encoding : Option Text) (threshold bufferSize : Int) :
    Except ScannerFault Scanner × Log :=
  let log := if encoding.isNone then [platformWarning] else []
  match Checker.make (encoding.getD platformEncoding) threshold bufferSize with
  | .error e => (.error (.checker e), log)
  | .ok checker =>
    match Pattern.compileCollection (if globs.isTruthy then globs else .list []) with
    | .error e => (.error (.globs e), log)
    | .ok patterns => (.ok ⟨checker, patterns⟩, log)

/-- The scanner with other exclusion globs. -/
def setGlobs [Runtime] (s : Scanner) (globs : Value) : Except CollectionError Scanner :=
  match Pattern.compileCollection globs with
  | .error e => .error e
  | .ok patterns => .ok { s with patterns := patterns }

/-- Whether a path below the root is left out. -/
def excludes (s : Scanner) (path : String) : Bool :=
  s.patterns.any (·.accepts path)

/-! ## One directory -/

/-- What an entry of a directory leads to, links followed. -/
def target (d : Disk) (names : List String) (node : Node) : Except DiskError Located :=
  match node with
  | .link _ => d.findNames names
  | .unasked cause => .error (.refused cause (d.display names))
  | node =>
    if Disk.pathLimit ≤ (d.display names).utf8ByteSize then
      .error (.refused .nameTooLong (d.display names))
    else .ok ⟨names, node⟩

/-- Whether an entry leads to a directory. -/
def leadsToDirectory (d : Disk) (names : List String) (node : Node) : Except DiskError Bool :=
  match Disk.ifThere (target d names node) with
  | .error e => .error e
  | .ok found => .ok (found.any (·.node.isDirectory))

/-- An entry with the name it is sorted by and whether it leads to a directory. -/
structure Ranked where
  isDirectory : Bool
  name : String
  node : Node
  deriving Repr

/-- The order of a listing: directories first, then by name. -/
def Ranked.le (a b : Ranked) : Bool :=
  if a.isDirectory = b.isDirectory then !(b.name < a.name) else a.isDirectory

/-- The entries of a directory with their ranks. -/
def rank (d : Disk) (names : List String) :
    List (String × Node) → Except DiskError (List Ranked)
  | [] => .ok []
  | (name, node) :: rest =>
    match leadsToDirectory d (names ++ [name]) node with
    | .error e => .error e
    | .ok isDirectory =>
      match rank d names rest with
      | .error e => .error e
      | .ok ranked => .ok (⟨isDirectory, name, node⟩ :: ranked)

/-- The entries of a directory in the order of a scan. -/
def listing (d : Disk) (names : List String) (node : Node) :
    Except DiskError (List (String × Node)) :=
  match node with
  | .directory none entries =>
    match rank d names entries with
    | .error e => .error e
    | .ok ranked => .ok ((ranked.mergeSort Ranked.le).map fun r => (r.name, r.node))
  | .directory (some cause) _ => .error (.refused cause (d.display names))
  | _ => .error (.refused .notDirectory (d.display names))

/-- What the log says of a directory that cannot be listed. -/
def listingRecord (shown : String) (e : DiskError) : LogRecord :=
  match e with
  | .refused .denied _ =>
    Log.warning s!"Permission denied accessing directory: {shown} - {e.message}"
  | e => Log.warning s!"Error accessing directory: {shown} - {e.message}"

/-! ## One task -/

/-- What a task comes to. -/
inductive Outcome where
  /-- Further tasks, which come next. -/
  | tasks (tasks : List Task)
  /-- An entry that is left out. -/
  | excluded
  | file (file : CheckedFile)
  | fault (fault : FileFault)
  deriving Repr

/-- Does one task of a scan from a root. -/
def perform (s : Scanner) (d : Disk) (root : List String) : Task → Outcome × Log
  | .enter names node =>
    match listing d names node with
    | .error e => (.tasks [], [listingRecord (d.display names) e])
    | .ok entries =>
      (.tasks (entries.map fun (name, node) => .visit (names ++ [name]) node), [])
  | .visit names node =>
    let shown := d.display names
    let path := Path.joinNames '/' (names.drop root.length)
    if node.isLink then (.tasks [], [Log.debug s!"Skipping symlink: {shown}"])
    else if s.excludes path then
      (.excluded, [Log.debug s!"Skipping {path} due to exclude globs"])
    else
      match node with
      | .directory .. => (.tasks [.enter names node], [])
      | .file .. =>
        match s.checker.checkFile shown path node with
        | (.ok file, log) => (.file file, log)
        | (.error fault, log) => (.fault fault, log)
      | _ => (.tasks [], [])

/-! ## Tasks lead to fewer tasks -/

theorem rank_entries {d : Disk} {names : List String} {entries : List (String × Node)}
    {ranked : List Ranked} (h : rank d names entries = .ok ranked) :
    ranked.map (fun r => (r.name, r.node)) = entries := by
  induction entries generalizing ranked with
  | nil => simp only [rank, Except.ok.injEq] at h; simp [← h]
  | cons e rest ih =>
    obtain ⟨name, node⟩ := e
    unfold rank at h
    split at h
    · simp at h
    · split at h
      · simp at h
      · rename_i hr
        simp only [Except.ok.injEq] at h
        simp [← h, ih hr]

theorem listing_perm {d : Disk} {names : List String} {node : Node}
    {entries : List (String × Node)} (h : listing d names node = .ok entries) :
    entries.Perm node.entries := by
  unfold listing at h
  split at h
  · split at h
    · simp at h
    · rename_i refusal ranked hr
      simp only [Except.ok.injEq] at h
      rw [← h, Node.entries, ← rank_entries hr]
      exact (List.mergeSort_perm ranked Ranked.le).map _
  · simp at h
  · simp at h

theorem perform_total {s : Scanner} {d : Disk} {root : List String} {t : Task}
    {tasks : List Task} {log : Log} (h : s.perform d root t = (.tasks tasks, log)) :
    Task.total tasks < t.weight := by
  unfold perform at h
  split at h
  · rename_i names node
    split at h
    · obtain ⟨⟨rfl⟩, -⟩ := by simpa using h
      simp only [Task.total, Task.weight]
      have := tasksIn_entries node
      omega
    · rename_i entries hl
      simp only [Prod.mk.injEq, Outcome.tasks.injEq] at h
      obtain ⟨rfl, -⟩ := h
      have hp := tasksIn_perm (listing_perm hl)
      have := tasksIn_entries node
      rw [Task.total_visits, hp]
      exact this
  · rename_i names node
    simp only at h
    split at h
    · obtain ⟨⟨rfl⟩, -⟩ := by simpa using h
      simp only [Task.total, Task.weight]; omega
    · split at h
      · simp at h
      · split at h
        · simp only [Prod.mk.injEq, Outcome.tasks.injEq] at h
          obtain ⟨rfl, -⟩ := h
          simp [Task.total, Task.weight]
        · split at h <;> simp at h
        · obtain ⟨⟨rfl⟩, -⟩ := by simpa using h
          simp only [Task.total, Task.weight]; omega

end Scanner

end TabAudit
