import TabAudit.Scan.Walk

/-!
# Tasks one after the other

What tasks in a row come to is what the first come to, followed by what the others come to. So a
scan can be taken apart at every directory and every entry.
-/

namespace TabAudit

namespace Stretch

/-- A stretch followed by another, unless the first ended early. -/
def andThen (a b : Stretch) : Stretch :=
  match a.fault with
  | some _ => a
  | none => ⟨a.log ++ b.log, a.files ++ b.files, a.excluded + b.excluded, b.fault⟩

theorem andThen_of_none {a : Stretch} (h : a.fault = none) (b : Stretch) :
    a.andThen b = ⟨a.log ++ b.log, a.files ++ b.files, a.excluded + b.excluded, b.fault⟩ := by
  rw [andThen, h]

/-- A stretch of log entries alone. -/
def noted (log : Log) : Stretch := ⟨log, [], 0, none⟩

@[simp] theorem noted_files (log : Log) : (noted log).files = [] := rfl

@[simp] theorem noted_excluded (log : Log) : (noted log).excluded = 0 := rfl

@[simp] theorem noted_fault (log : Log) : (noted log).fault = none := rfl

theorem noted_andThen_nil (b : Stretch) : (noted []).andThen b = b := by
  simp [andThen, noted]

theorem andThen_assoc (a b c : Stretch) : (a.andThen b).andThen c = a.andThen (b.andThen c) := by
  cases ha : a.fault with
  | some fault => simp only [andThen, ha]
  | none =>
    cases hb : b.fault with
    | some fault => simp only [andThen, ha, hb]
    | none => simp only [andThen, ha, hb, List.append_assoc, Nat.add_assoc]

end Stretch

namespace Scanner

variable {s : Scanner} {d : Disk} {root : List String}

/-- What a task comes to on its own, and the tasks it leads to. -/
def first (s : Scanner) (d : Disk) (root : List String) (t : Task) : Stretch × List Task :=
  match s.perform d root t with
  | (.tasks more, log) => (⟨log, [], 0, none⟩, more)
  | (.excluded, log) => (⟨log, [], 1, none⟩, [])
  | (.file file, log) => (⟨log, [file], 0, none⟩, [])
  | (.fault fault, log) => (⟨log, [], 0, some (.file fault)⟩, [])

theorem collect_nil : s.collect d root [] = Stretch.noted [] := by
  rw [collect, Stretch.noted]

/-- The tasks that a task leads to come directly after it. -/
theorem collect_cons (t : Task) (rest : List Task) :
    s.collect d root (t :: rest) =
      (s.first d root t).1.andThen (s.collect d root ((s.first d root t).2 ++ rest)) := by
  rw [collect]
  split <;> rename_i outcome <;> simp only [first, outcome, Stretch.andThen, List.nil_append,
    List.cons_append, Nat.zero_add]
  exact congrArg (Stretch.mk _ _ · _) (Nat.add_comm _ _)

theorem first_total (s : Scanner) (d : Disk) (root : List String) (t : Task) :
    Task.total (s.first d root t).2 < t.weight := by
  unfold first
  split
  · rename_i outcome
    exact perform_total outcome
  all_goals exact t.weight_pos

/-- Tasks in a row come to what the first come to and then to what the others come to. -/
theorem collect_append (a b : List Task) :
    s.collect d root (a ++ b) = (s.collect d root a).andThen (s.collect d root b) := by
  induction h : Task.total a using Nat.strongRecOn generalizing a with
  | ind n ih =>
    subst h
    cases a with
    | nil => rw [List.nil_append, collect_nil, Stretch.noted_andThen_nil]
    | cons t rest =>
      have smaller : Task.total ((s.first d root t).2 ++ rest) < Task.total (t :: rest) := by
        have := first_total s d root t
        rw [Task.total_append, Task.total_cons]
        omega
      rw [List.cons_append, collect_cons, collect_cons, ← List.append_assoc,
        ih _ smaller _ rfl, Stretch.andThen_assoc]

theorem collect_single (t : Task) :
    s.collect d root [t] =
      (s.first d root t).1.andThen (s.collect d root (s.first d root t).2) := by
  rw [collect_cons, List.append_nil]

end Scanner

end TabAudit
