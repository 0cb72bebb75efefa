import TabAudit.Scan.File

/-!
# How the check of a file ends for a scan

A scan settles the faults it expects: a binary file, one that does not decode, and one that cannot
be opened or read. The check of any file then has a result, under the path it was given.
-/

namespace TabAudit

/-- The kinds of faults of a decoder that a scan expects. -/
def FaultKind.Expected : FaultKind → Prop
  | .undecodable | .denied | .system => True
  | _ => False

/-- The faults that a scan expects: a run of zeros, bytes that do not decode, and what the system
refuses. -/
def FileFault.Expected : FileFault → Prop
  | .check (.reading (.nulRun _)) => True
  | .check (.reading (.source _)) => True
  | .check (.decoding fault) => fault.kind.Expected
  | .disk (.refused ..) => True
  | _ => False

/-- The scan settles just the faults it expects. -/
theorem FileFault.settled?_isSome (f : FileFault) (encoding shown path : String) :
    (f.settled? encoding shown path).isSome ↔ f.Expected := by
  unfold settled? Expected
  split
  case h_2 fault => cases h : fault.kind <;> simp [FaultKind.Expected, h]
  all_goals simp_all

namespace Checker

/-- Whether the check of what stands at a path ends in a way that a scan expects. -/
def Settles (c : Checker) (shown : String) (node : Node) : Prop :=
  ∀ fault, (c.checkNode shown node).1 = .error fault → fault.Expected

/-- A check that settles has a result. -/
theorem Settles.checkFile {c : Checker} {shown : String} {node : Node} (h : c.Settles shown node)
    (path : String) : ∃ file log, c.checkFile shown path node = (.ok file, log) := by
  unfold Checker.checkFile
  split
  · exact ⟨_, _, rfl⟩
  · rename_i fault log outcome
    have expected := h fault (by rw [outcome])
    obtain ⟨⟨status, record⟩, settled⟩ := Option.isSome_iff_exists.mp
      ((fault.settled?_isSome c.encodingName shown path).mpr expected)
    exact ⟨_, _, by simp only [settled]; rfl⟩

/-- The result of a check has the path that was given. -/
theorem checkFile_path {c : Checker} {shown path : String} {node : Node} {file : CheckedFile}
    {log : Log} (h : c.checkFile shown path node = (.ok file, log)) : file.path = path := by
  unfold checkFile at h
  split at h
  · obtain ⟨rfl, -⟩ := by simpa using h
    rfl
  · split at h
    · obtain ⟨rfl, -⟩ := by simpa using h
      rfl
    · simp at h

theorem checkFile_of_ok {c : Checker} {shown : String} {node : Node} {tabs : List Position}
    (checked : (c.checkNode shown node).1 = .ok tabs) (path : String) :
    (c.checkFile shown path node).1 =
      .ok ⟨path, if tabs.isEmpty then .clean else .tabsFound, tabs⟩ := by
  unfold checkFile
  split
  · rename_i outcome
    rw [outcome] at checked
    cases checked
    rfl
  · rename_i outcome
    rw [outcome] at checked
    cases checked

theorem checkFile_of_error {c : Checker} {shown : String} {node : Node} {fault : FileFault}
    (checked : (c.checkNode shown node).1 = .error fault) (path : String) :
    (c.checkFile shown path node).1 =
      match fault.settled? c.encodingName shown path with
      | some (status, _) => .ok ⟨path, status, []⟩
      | none => .error fault := by
  unfold checkFile
  split
  · rename_i outcome
    rw [outcome] at checked
    cases checked
  · rename_i outcome
    rw [outcome] at checked
    cases checked
    cases fault.settled? c.encodingName shown path <;> rfl

end Checker

end TabAudit
