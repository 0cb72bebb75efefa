import TabAudit.Scan.Walk
/-!
# One scanner in use

A scanner may be asked for whole scans, given other globs, and have several walks under way, in any
order. Its globs and its count of what was left out are shared by all of these: the count starts
anew whenever some walk begins, and a whole scan reads it off at its end.
-/

namespace TabAudit

namespace Scanner

/-! ## Counting what is left out -/

/-- Does tasks up to the first file, and tells which are left. Every entry that is left out is
counted. -/
def pursue (s : Scanner) (d : Disk) (root : List String) (count : Nat) (tasks : List Task) :
    Except FileFault (Option CheckedFile) × List Task × Nat × Log :=
  match tasks with
  | [] => (.ok none, [], count, [])
  | t :: rest =>
    match _h : s.perform d root t with
    | (.tasks more, log) =>
      let (outcome, left, count, later) := pursue s d root count (more ++ rest)
      (outcome, left, count, log ++ later)
    | (.excluded, log) =>
      let (outcome, left, count, later) := pursue s d root (count + 1) rest
      (outcome, left, count, log ++ later)
    | (.file file, log) => (.ok (some file), rest, count, log)
    | (.fault fault, log) => (.error fault, [], count, log)
termination_by Task.total tasks
decreasing_by
  · have := perform_total _h
    simp only [Task.total_append, Task.total_cons]
    omega
  · have := t.weight_pos
    simp only [Task.total_cons]
    omega

theorem pursue_total {s : Scanner} {d : Disk} {root : List String} {count count' : Nat}
    {tasks left : List Task} {file : CheckedFile} {log : Log}
    (h : s.pursue d root count tasks = (.ok (some file), left, count', log)) :
    Task.total left < Task.total tasks := by
  fun_induction pursue s d root count tasks generalizing count' left log with
  | case1 => simp at h
  | case2 count t rest more before leads outcome left₁ count₁ later further ih =>
    obtain ⟨rfl, rfl, rfl, -⟩ := by simpa using h
    have smaller := ih further
    have := perform_total leads
    rw [Task.total_append] at smaller
    rw [Task.total_cons]
    omega
  | case3 count t rest before leads outcome left₁ count₁ later further ih =>
    obtain ⟨rfl, rfl, rfl, -⟩ := by simpa using h
    have smaller := ih further
    rw [Task.total_cons]
    omega
  | case4 count t rest given log leads =>
    obtain ⟨-, rfl, -⟩ := by simpa using h
    have := t.weight_pos
    rw [Task.total_cons]
    omega
  | case5 => simp at h

/-- Asks for files until there are none. -/
def drain (s : Scanner) (d : Disk) (root : List String) (count : Nat) (tasks : List Task) :
    Except FileFault (List CheckedFile) × Nat × Log :=
  match _h : s.pursue d root count tasks with
  | (.error fault, _, count, log) => (.error fault, count, log)
  | (.ok none, _, count, log) => (.ok [], count, log)
  | (.ok (some file), left, count, log) =>
    let (outcome, count, later) := drain s d root count left
    (outcome.map (file :: ·), count, log ++ later)
termination_by Task.total tasks
decreasing_by exact pursue_total _h

/-- The tasks of a scan that starts at a path, and the count then. A path that has no name without
links leaves the count as it was. -/
def beginCount (d : Disk) (count : Nat) (p : Path) :
    Except ScanFault (List String × List Task) × Nat × Log :=
  match begin d p with
  | (.error (.resolving e), log) => (.error (.resolving e), count, log)
  | (outcome, log) => (outcome, 0, log)

/-- The next file of a walk, and the count after it. -/
def nextCount (s : Scanner) (d : Disk) (count : Nat) (w : Walk) :
    Except ScanFault (Option CheckedFile) × Walk × Nat × Log :=
  let run (root : List String) (count : Nat) (tasks : List Task) (before : Log) :=
    match s.pursue d root count tasks with
    | (.error fault, _, count, log) => (.error (.file fault), Walk.finished, count, before ++ log)
    | (.ok file, left, count, log) => (.ok file, Walk.under root left, count, before ++ log)
  match w with
  | .under root tasks => run root count tasks []
  | .waiting path =>
    match beginCount d count path with
    | (.error fault, count, log) => (.error fault, Walk.finished, count, log)
    | (.ok (root, tasks), count, log) => run root count tasks log

/-- Scans a whole tree, and tells the count at the end. -/
def checkCount (s : Scanner) (d : Disk) (count : Nat) (p : Path) :
    Except ScanFault ScanReport × Nat × Log :=
  match beginCount d count p with
  | (.error fault, count, log) => (.error fault, count, log)
  | (.ok (root, tasks), count, log) =>
    match s.drain d root count tasks with
    | (.error fault, count, later) => (.error (.file fault), count, log ++ later)
    | (.ok files, count, later) => (.ok ⟨root, files, count⟩, count, log ++ later)

end Scanner

/-! ## Calls -/

/-- A scanner in use: what it counted since a walk last began, and the walks that were made. -/
structure ScanSession where
  scanner : Scanner
  excluded : Nat
  walks : List Walk

namespace ScanSession

/-- What a scanner can be asked for. Walks are numbered in the order in which they were made. -/
inductive Call where
  | setGlobs (globs : Value)
  | check (p : Path)
  | start (p : Path)
  | next (number : Nat)
  deriving Repr

/-- What comes of a call. -/
inductive Answer where
  | globsSet (outcome : Except CollectionError Unit)
  | report (outcome : Except ScanFault ScanReport)
  | started
  | file (outcome : Except ScanFault (Option CheckedFile))
  deriving Repr

/-- A scanner that has not been asked for anything. -/
def fresh (s : Scanner) : ScanSession := ⟨s, 0, []⟩

/-- Does a call. A walk that is not there has nothing to give. -/
def step [Runtime] (d : Disk) (st : ScanSession) : Call → Answer × ScanSession × Log
  | .setGlobs globs =>
    match st.scanner.setGlobs globs with
    | .error e => (.globsSet (.error e), st, [])
    | .ok scanner => (.globsSet (.ok ()), { st with scanner := scanner }, [])
  | .check p =>
    let (outcome, count, log) := st.scanner.checkCount d st.excluded p
    (.report outcome, { st with excluded := count }, log)
  | .start p => (.started, { st with walks := st.walks ++ [.waiting p] }, [])
  | .next number =>
    let (outcome, walk, count, log) :=
      st.scanner.nextCount d st.excluded (st.walks.getD number .finished)
    (.file outcome, { st with excluded := count, walks := st.walks.set number walk }, log)

/-- Does calls one after the other. -/
def run [Runtime] (d : Disk) (st : ScanSession) (calls : List Call) : ScanSession :=
  calls.foldl (fun st call => (st.step d call).2.1) st

end ScanSession

end TabAudit
