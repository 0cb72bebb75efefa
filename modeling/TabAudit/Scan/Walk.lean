import TabAudit.Scan.Scanner
/-!
# Scans that rest

A walk is a scan that rests after each file. It begins when the first file is asked for, and uses
the globs that are in force when it comes to an entry. A whole scan collects every file.
-/

namespace TabAudit

/-- A scan under way. -/
inductive Walk where
  /-- Nothing has been looked at yet. -/
  | waiting (path : Path)
  /-- These tasks are left below a root. -/
  | under (root : List String) (tasks : List Task)
  deriving Repr

namespace Walk

/-- A walk with nothing left to do. -/
def finished : Walk := .under [] []

end Walk

/-- What a scan came to, up to some point. -/
structure Stretch where
  log : Log
  files : List CheckedFile
  excluded : Nat
  fault : Option ScanFault
  deriving Repr

namespace Scanner

/-- The tasks of a scan that starts at a path, and the root they are below. -/
def begin (d : Disk) (p : Path) : Except ScanFault (List String × List Task) × Log :=
  match d.resolve p with
  | .error e => (.error (.resolving e), [])
  | .ok root =>
    let shown := d.display root
    match Disk.ifThere (d.findNames root) with
    | .error e => (.error (.disk e), [])
    | .ok none => (.ok (root, []), [Log.error s!"Root path does not exist: {shown}"])
    | .ok (some found) =>
      if found.node.isDirectory then
        (.ok (root, [.enter root found.node]), [Log.debug s!"Project base directory is {shown}"])
      else (.ok (root, []), [Log.error s!"Root path is not a directory: {shown}"])

/-- Does tasks up to the first file, and tells which are left. -/
def advance (s : Scanner) (d : Disk) (root : List String) (tasks : List Task) :
    Except FileFault (Option CheckedFile) × List Task × Log :=
  match tasks with
  | [] => (.ok none, [], [])
  | t :: rest =>
    match _h : s.perform d root t with
    | (.tasks more, log) =>
      let (outcome, left, later) := advance s d root (more ++ rest)
      (outcome, left, log ++ later)
    | (.excluded, log) =>
      let (outcome, left, later) := advance s d root rest
      (outcome, left, log ++ later)
    | (.file file, log) => (.ok (some file), rest, log)
    | (.fault fault, log) => (.error fault, [], log)
termination_by Task.total tasks
decreasing_by
  · have := perform_total _h
    simp only [Task.total_append, Task.total_cons]
    omega
  · have := t.weight_pos
    simp only [Task.total_cons]
    omega

/-- The next file of a walk. -/
def next (s : Scanner) (d : Disk) (w : Walk) :
    Except ScanFault (Option CheckedFile) × Walk × Log :=
  let run (root : List String) (tasks : List Task) (before : Log) :=
    match s.advance d root tasks with
    | (.error fault, _, log) => (.error (.file fault), Walk.finished, before ++ log)
    | (.ok file, left, log) => (.ok file, Walk.under root left, before ++ log)
  match w with
  | .under root tasks => run root tasks []
  | .waiting path =>
    match begin d path with
    | (.error fault, log) => (.error fault, Walk.finished, log)
    | (.ok (root, tasks), log) => run root tasks log

/-- Does all tasks. -/
def collect (s : Scanner) (d : Disk) (root : List String) (tasks : List Task) : Stretch :=
  match tasks with
  | [] => ⟨[], [], 0, none⟩
  | t :: rest =>
    match _h : s.perform d root t with
    | (.tasks more, log) =>
      let later := collect s d root (more ++ rest)
      { later with log := log ++ later.log }
    | (.excluded, log) =>
      let later := collect s d root rest
      { later with log := log ++ later.log, excluded := later.excluded + 1 }
    | (.file file, log) =>
      let later := collect s d root rest
      { later with log := log ++ later.log, files := file :: later.files }
    | (.fault fault, log) => ⟨log, [], 0, some (.file fault)⟩
termination_by Task.total tasks
decreasing_by
  · have := perform_total _h
    simp only [Task.total_append, Task.total_cons]
    omega
  · have := t.weight_pos
    simp only [Task.total_cons]
    omega
  · have := t.weight_pos
    simp only [Task.total_cons]
    omega

/-- Scans a whole tree. -/
def check (s : Scanner) (d : Disk) (p : Path) : Except ScanFault ScanReport × Log :=
  match begin d p with
  | (.error fault, log) => (.error fault, log)
  | (.ok (root, tasks), log) =>
    let stretch := s.collect d root tasks
    match stretch.fault with
    | some fault => (.error fault, log ++ stretch.log)
    | none => (.ok ⟨root, stretch.files, stretch.excluded⟩, log ++ stretch.log)

end Scanner

end TabAudit
