import TabAudit.Proofs.Scan.Collect

/-!
# A walk gives the files of a whole scan

A walk does the tasks of a scan up to the next file and rests there. Asked for the next file until
there is none, it gives the files that the whole scan would have collected.
-/

namespace TabAudit.Scanner

variable {s : Scanner} {d : Disk} {root : List String} {tasks left : List Task} {log : Log}

/-- What doing tasks up to the first file says of doing all of them. -/
def Rests (s : Scanner) (d : Disk) (root : List String) (tasks : List Task) :
    Except FileFault (Option CheckedFile) × List Task × Log → Prop
  | (.error fault, _, _) => (s.collect d root tasks).fault = some (.file fault)
  | (.ok none, _, _) => (s.collect d root tasks).files = [] ∧ (s.collect d root tasks).fault = none
  | (.ok (some file), left, _) => Task.total left < Task.total tasks ∧
      (s.collect d root tasks).files = file :: (s.collect d root left).files ∧
      (s.collect d root tasks).fault = (s.collect d root left).fault

/-- Tasks that come to the same as others, with less to do, rest where these do. -/
theorem Rests.congr {more : List Task} {outcome : Except FileFault (Option CheckedFile)}
    {later : Log} (h : s.Rests d root more (outcome, left, later))
    (smaller : Task.total more < Task.total tasks)
    (files : (s.collect d root tasks).files = (s.collect d root more).files)
    (fault : (s.collect d root tasks).fault = (s.collect d root more).fault) (log : Log) :
    s.Rests d root tasks (outcome, left, log) := by
  rcases outcome with _ | _ | file
  · exact fault.trans h
  · exact ⟨files.trans h.1, fault.trans h.2⟩
  · exact ⟨Nat.lt_trans h.1 smaller, files.trans h.2.1, fault.trans h.2.2⟩

/-- Doing a task first and then all that is left. -/
theorem collect_of_first {t : Task} {r : Stretch} {more : List Task}
    (h : s.first d root t = (r, more)) (sound : r.fault = none) (rest : List Task) :
    (s.collect d root (t :: rest)).files =
        r.files ++ (s.collect d root (more ++ rest)).files ∧
      (s.collect d root (t :: rest)).fault = (s.collect d root (more ++ rest)).fault := by
  rw [collect_cons, h, Stretch.andThen_of_none sound]
  exact ⟨rfl, rfl⟩

theorem advance_rests (s : Scanner) (d : Disk) (root : List String) (tasks : List Task) :
    s.Rests d root tasks (s.advance d root tasks) := by
  have fewer (t : Task) (rest : List Task) : Task.total rest < Task.total (t :: rest) := by
    have := t.weight_pos
    rw [Task.total_cons]
    omega
  fun_induction advance s d root tasks with
  | case1 =>
    rw [Rests, collect_nil]
    exact ⟨rfl, rfl⟩
  | case2 t rest more log leads outcome left later further ih =>
    have alone : s.first d root t = (.noted log, more) := by simp only [first, leads, Stretch.noted]
    obtain ⟨files, fault⟩ := collect_of_first alone rfl rest
    have smaller : Task.total (more ++ rest) < Task.total (t :: rest) := by
      have := perform_total leads
      rw [Task.total_append, Task.total_cons]
      omega
    rw [further] at ih
    exact ih.congr smaller files fault _
  | case3 t rest log leads outcome left later further ih =>
    have alone : s.first d root t = (⟨log, [], 1, none⟩, []) := by simp only [first, leads]
    obtain ⟨files, fault⟩ := collect_of_first alone rfl rest
    rw [further] at ih
    exact ih.congr (fewer t rest) files fault _
  | case4 t rest file log leads =>
    have alone : s.first d root t = (⟨log, [file], 0, none⟩, []) := by simp only [first, leads]
    exact ⟨fewer t rest, collect_of_first alone rfl rest⟩
  | case5 t rest fault log leads =>
    have alone : s.first d root t = (⟨log, [], 0, some (.file fault)⟩, []) := by
      simp only [first, leads]
    rw [Rests, collect_cons, alone]
    rfl

/-- The files that a walk gives, asked for the next one until there is none. -/
inductive Gives (s : Scanner) (d : Disk) : Walk → List CheckedFile → Prop
  | ends {w w' : Walk} {log : Log} (last : s.next d w = (.ok none, w', log)) : Gives s d w []
  | file {w w' : Walk} {log : Log} {file : CheckedFile} {files : List CheckedFile}
      (next : s.next d w = (.ok (some file), w', log)) (later : Gives s d w' files) :
      Gives s d w (file :: files)

/-- A walk gives one list of files. -/
theorem Gives.unique {w : Walk} {files files' : List CheckedFile} (h : s.Gives d w files)
    (h' : s.Gives d w files') : files = files' := by
  induction h generalizing files' with
  | ends last =>
    cases h' with
    | ends _ => rfl
    | file next => cases last.symm.trans next
  | file next later ih =>
    cases h' with
    | ends last => cases last.symm.trans next
    | file next' later' =>
      cases next.symm.trans next'
      rw [ih later']

/-- A walk below a root gives what a whole scan collects there. -/
theorem gives_collect (sound : (s.collect d root tasks).fault = none) :
    s.Gives d (.under root tasks) (s.collect d root tasks).files := by
  induction h : Task.total tasks using Nat.strongRecOn generalizing tasks with
  | ind size ih =>
    subst h
    have rests := advance_rests s d root tasks
    rcases advanced : s.advance d root tasks with ⟨fault | _ | file, left, log⟩
    · rw [advanced] at rests
      exact absurd (sound.symm.trans rests) (by simp)
    · rw [advanced] at rests
      rw [rests.1]
      exact .ends (by simp only [next, advanced]; rfl)
    · rw [advanced] at rests
      obtain ⟨smaller, files, fault⟩ := rests
      rw [files]
      exact .file (by simp only [next, advanced]; rfl) (ih _ smaller (fault.symm.trans sound) rfl)

/-- The first step of a walk does all that the first step below the root does, with a line of log
before. -/
theorem next_waiting {p : Path} (start : begin d p = (.ok (root, tasks), log)) :
    (s.next d (.waiting p)).1 = (s.next d (.under root tasks)).1 ∧
      (s.next d (.waiting p)).2.1 = (s.next d (.under root tasks)).2.1 := by
  simp only [next, start]
  split <;> exact ⟨rfl, rfl⟩

/-- A walk that has yet to begin gives what it gives below its root. -/
theorem gives_begin_iff {p : Path} {files : List CheckedFile}
    (start : begin d p = (.ok (root, tasks), log)) :
    s.Gives d (.waiting p) files ↔ s.Gives d (.under root tasks) files := by
  obtain ⟨outcome, walk⟩ := next_waiting (s := s) start
  -- Walks whose next steps differ in nothing but the log give the same.
  have same {w₁ w₂ : Walk} (outcome : (s.next d w₁).1 = (s.next d w₂).1)
      (walk : (s.next d w₁).2.1 = (s.next d w₂).2.1) (h : s.Gives d w₂ files) :
      s.Gives d w₁ files := by
    have whole {file : Option CheckedFile} {w : Walk} {later : Log}
        (step : s.next d w₂ = (.ok file, w, later)) :
        s.next d w₁ = (.ok file, w, (s.next d w₁).2.2) := by
      rw [step] at outcome walk
      exact Prod.ext outcome (Prod.ext walk rfl)
    cases h with
    | ends last => exact .ends (whole last)
    | file next later => exact .file (whole next) later
  exact ⟨same outcome.symm walk.symm, same outcome walk⟩

end TabAudit.Scanner
