import Mathlib
import TabAudit.Proofs.Scan.Decoded
import TabAudit.Proofs.Scan.Sight

/-!
# A report and its files

The numbers of a report are taken from the statuses of its files in part, and in part from their
tabs. They go together, as every file of a report is one that a task of the scan has checked
(`does_of_mem_files`), and its status tells whether it has tabs.
-/

namespace TabAudit

/-! ## The numbers of a report -/

namespace ScanReport

variable {r : ScanReport}

/-- Every file has one of the statuses. -/
theorem sum_count (r : ScanReport) : (FileStatus.all.map r.count).sum = r.files.length := by
  unfold count
  induction r.files with
  | nil => rfl
  | cons file rest ih =>
    simp only [FileStatus.all, List.map_cons, List.map_nil, List.sum_cons, List.sum_nil,
      List.countP_cons, List.length_cons] at ih ⊢
    cases file.status <;> simp <;> omega

theorem totalTabs_eq_sum (r : ScanReport) : r.totalTabs = (r.files.map (·.tabs.length)).sum := by
  rw [totalTabs, List.sum_eq_foldl, List.foldl_map]

/-- The tabs are those of the files with tabs. -/
theorem totalTabs_eq (told : ∀ file ∈ r.files, file.Told) :
    r.totalTabs = (r.filesWithTabs.map (·.tabs.length)).sum := by
  rw [totalTabs_eq_sum, filesWithTabs]
  -- The files that are passed over have no tabs to count.
  generalize r.files = files at told
  induction files with
  | nil => rfl
  | cons file rest ih =>
    obtain ⟨here, later⟩ := List.forall_mem_cons.mp told
    by_cases found : file.status = .tabsFound
    · rw [List.filter_cons_of_pos (by simpa using found), List.map_cons, List.map_cons,
        List.sum_cons, List.sum_cons, ih later]
    · have none : file.tabs = [] := not_not.mp (mt here.mpr found)
      rw [List.filter_cons_of_neg (by simpa using found), List.map_cons, List.sum_cons, none,
        List.length_nil, Nat.zero_add, ih later]

theorem hasTabs_iff (told : ∀ file ∈ r.files, file.Told) :
    r.hasTabs = true ↔ ∃ file ∈ r.files, file.tabs ≠ [] := by
  simp only [hasTabs, List.any_eq_true, decide_eq_true_eq]
  exact exists_congr fun file => and_congr_right fun member => told file member

theorem hasTabs_iff_filesWithTabs (r : ScanReport) : r.hasTabs = true ↔ r.filesWithTabs ≠ [] := by
  simp [hasTabs, filesWithTabs]

theorem hasTabs_iff_totalTabs (told : ∀ file ∈ r.files, file.Told) :
    r.hasTabs = true ↔ 0 < r.totalTabs := by
  rw [hasTabs_iff told, totalTabs_eq_sum, List.sum_pos_iff_exists_pos_nat]
  simp [List.length_pos_iff]

end ScanReport

/-- A directory of files is a tree as a file system keeps it, if their names are. -/
theorem Node.named_of_leaves {refusal : Option DiskCause} {entries : List (String × Node)}
    (distinct : (entries.map Prod.fst).Nodup) (free : ∀ e ∈ entries, '/' ∉ e.1.toList)
    (leaves : ∀ e ∈ entries, e.2.isDirectory = false) : (directory refusal entries).Named := by
  have whole {place : List String} {refusal' : Option DiskCause}
      {entries' : List (String × Node)}
      (there : (directory refusal entries).at? place = some (.directory refusal' entries')) :
      entries' = entries := by
    cases place with
    | nil =>
      cases there
      rfl
    | cons name rest =>
      obtain ⟨e, member, -, below⟩ := entry_of_at? there
      have leaf := leaves e member
      have none : e.2.entries = [] := by
        cases h : e.2 <;> simp_all [isDirectory, Node.entries]
      obtain ⟨-, same⟩ := at?_leaf none below
      rw [← same] at leaf
      cases leaf
  exact ⟨fun there => whole there ▸ distinct, fun there => whole there ▸ free⟩

namespace Scanner

variable {s : Scanner} {d : Disk} {root : List String} {p : Path} {report : ScanReport}
  {file : CheckedFile}

/-! ## Where the files of a report come from -/

/-- A task gives a file by checking it. -/
theorem perform_eq_file {t : Task} {log : Log} (h : s.perform d root t = (.file file, log)) :
    ∃ names content access, t = .visit names (.file content access) ∧
      s.checker.checkFile (d.display names) (Path.joinNames '/' (names.drop root.length))
        (.file content access) = (.ok file, log) := by
  unfold perform at h
  split at h
  · split at h <;> cases h
  · simp only at h
    split at h
    · cases h
    split at h
    · cases h
    split at h
    · cases h
    · split at h
      · rename_i checked
        cases h
        exact ⟨_, _, _, rfl, checked⟩
      · cases h
    · cases h

/-- Every file that a scan collects is given by a task that the scan comes to. -/
theorem does_of_mem_files {tasks : List Task} (h : file ∈ (s.collect d root tasks).files) :
    ∃ t log, s.Does d root tasks t ∧ s.perform d root t = (.file file, log) := by
  fun_induction collect s d root tasks with
  | case1 => simp at h
  | case2 t rest more log performed later ih =>
    obtain ⟨u, log', does, given⟩ := ih h
    exact ⟨u, log', .later (by rw [first, performed]; exact does), given⟩
  | case3 t rest log performed later ih =>
    obtain ⟨u, log', does, given⟩ := ih h
    exact ⟨u, log', .later (by rw [first, performed]; exact does), given⟩
  | case4 t rest other log performed later ih =>
    rcases List.mem_cons.mp h with rfl | h
    · exact ⟨t, log, .now, performed⟩
    · obtain ⟨u, log', does, given⟩ := ih h
      exact ⟨u, log', .later (by rw [first, performed]; exact does), given⟩
  | case5 => simp at h

theorem told_collect {tasks : List Task} (h : file ∈ (s.collect d root tasks).files) :
    file.Told := by
  obtain ⟨t, log, -, given⟩ := does_of_mem_files h
  obtain ⟨names, content, access, -, checked⟩ := perform_eq_file given
  exact Checker.told_checkFile (congrArg Prod.fst checked)

/-- A report has the files that the tasks collect with which a scan begins. -/
theorem check_eq_ok (h : (s.check d p).1 = .ok report) :
    ∃ tasks log, begin d p = (.ok (report.root, tasks), log) ∧
      report.files = (s.collect d report.root tasks).files := by
  unfold check at h
  split at h
  · cases h
  · rename_i start
    simp only at h
    split at h
    · cases h
    · cases h
      exact ⟨_, _, start, rfl⟩

theorem told_check (h : (s.check d p).1 = .ok report) : ∀ file ∈ report.files, file.Told := by
  obtain ⟨tasks, log, -, files⟩ := check_eq_ok h
  rw [files]
  exact fun file => told_collect

/-- A scan has nothing to do where it begins at no directory. -/
theorem begin_eq {tasks : List Task} {log : Log} (h : begin d p = (.ok (root, tasks), log)) :
    tasks = [] ∨ ∃ found, d.resolve p = .ok root ∧ d.findNames root = .ok found ∧
      found.node.isDirectory = true ∧ tasks = [.enter root found.node] := by
  unfold begin at h
  split at h
  · cases h
  · rename_i resolved
    simp only at h
    split at h
    · cases h
    · cases h
      exact .inl rfl
    · rename_i found located
      split at h
      · rename_i directory
        cases h
        exact .inr ⟨found, resolved, Disk.ifThere_eq_some.mp located, directory, rfl⟩
      · cases h
        exact .inl rfl

/-- Every file of a report stands in the tree, at the place that its path names, and was checked
there. -/
theorem checked_of_mem_files (named : d.root.Named) (h : (s.check d p).1 = .ok report)
    (member : file ∈ report.files) :
    ∃ found place content access log, d.resolve p = .ok report.root ∧
      d.findNames report.root = .ok found ∧
      found.node.at? place = some (.file content access) ∧
      s.checker.checkFile (d.display (report.root ++ place)) (Path.joinNames '/' place)
        (.file content access) = (.ok file, log) := by
  obtain ⟨tasks, log, start, files⟩ := check_eq_ok h
  rw [files] at member
  obtain ⟨t, log, does, given⟩ := does_of_mem_files member
  obtain ⟨names, content, access, rfl, checked⟩ := perform_eq_file given
  rcases begin_eq start with rfl | ⟨found, resolved, located, -, rfl⟩
  · cases does
  · have starts : ∀ u ∈ [Task.enter report.root found.node], s.Due report.root found.node u := by
      simpa using due_root
    cases does.due (Disk.named_of_findNames named located) starts with
    | visit there way =>
      rw [List.drop_left] at checked
      exact ⟨found, _, content, access, log, resolved, located, there, checked⟩

/-- Whatever a scan comes to that gives a report, the report describes every file in it, its counts
make up the number of its files, and its total is that of the files with tabs: it is positive just
if there are such, and just if the report says so. -/
theorem check_consistent (named : d.root.Named) (h : (s.check d p).1 = .ok report) :
    (∀ file ∈ report.files, ∃ found place content access,
      d.resolve p = .ok report.root ∧ d.findNames report.root = .ok found ∧
      found.node.at? place = some (.file content access) ∧
      file.path = Path.joinNames '/' place ∧
      (∃ pieces, pieces.flatten = content ∧ file.Describes s.checker access pieces) ∧
      (s.checker.encoding.stream.ChunkInvariant → ∀ pieces, pieces.flatten = content →
        file.Describes s.checker access pieces)) ∧
    (FileStatus.all.map report.count).sum = report.files.length ∧
    report.totalTabs = (report.filesWithTabs.map (·.tabs.length)).sum ∧
    (report.hasTabs = true ↔ 0 < report.totalTabs) ∧
    (report.hasTabs = true ↔ report.filesWithTabs ≠ []) := by
  have told := told_check h
  refine ⟨fun file member => ?_, report.sum_count, ScanReport.totalTabs_eq told,
    ScanReport.hasTabs_iff_totalTabs told, report.hasTabs_iff_filesWithTabs⟩
  obtain ⟨found, place, content, access, log, resolved, located, there, checked⟩ :=
    checked_of_mem_files named h member
  obtain ⟨pieces, rfl, describes⟩ := Checker.describes_checkFile (congrArg Prod.fst checked)
  exact ⟨found, place, _, access, resolved, located, there, Checker.checkFile_path checked,
    ⟨pieces, rfl, describes⟩, fun invariant other same => describes.recut invariant same⟩

/-- A disk with a file whose block of four bytes ends between `\r` and `\n`, and one that cannot be
opened. -/
def mixedDisk : Disk :=
  ⟨.directory none [("b", .file [] (.closed .denied)),
    ("a", .file [9, 97, 97, 13, 10, 9] .sound)], [], ""⟩

/-- The report of a scan of this disk. -/
def mixedReport : ScanReport :=
  ⟨[], [⟨"a", .tabsFound, [⟨1, 1⟩, ⟨2, 1⟩]⟩, ⟨"b", .unreadable, []⟩], 0⟩

theorem invariant_smallScanner : smallScanner.checker.encoding.stream.ChunkInvariant :=
  Encoding.utf8.chunkInvariant

theorem check_mixedDisk :
    (smallScanner.check mixedDisk ⟨"", "/", []⟩).1 = .ok mixedReport := by
  have clear (k : Nat) : ¬ ZeroRunAt 1 [9, 97, 97, 13, 10, 9] k := by
    intro run
    have within : k + 1 ≤ 6 := run.le_length (by decide)
    have none : ∀ k < 6, [9, 97, 97, 13, 10, (9 : UInt8)][k]? ≠ some 0 := by decide
    exact none k (by omega) (run 0 (by decide))
  have listed : (smallScanner.checker.checkNode "/a" (.file [9, 97, 97, 13, 10, 9] .sound)).1 =
      .ok [⟨1, 1⟩, ⟨2, 1⟩] :=
    (Checker.checkNode_ok_iff invariant_smallScanner).mpr ⟨⟨by decide, by decide, rfl⟩, trivial,
      clear, ['\t', 'a', 'a', '\r', '\n', '\t'], by cbv, by decide⟩
  have start : begin mixedDisk ⟨"", "/", []⟩ = (.ok ([], [.enter [] mixedDisk.root]),
      [Log.debug "Project base directory is /"]) := by
    cbv
  have enter : smallScanner.first mixedDisk [] (.enter [] mixedDisk.root) =
      (.noted [], [.visit ["a"] (.file [9, 97, 97, 13, 10, 9] .sound),
        .visit ["b"] (.file [] (.closed .denied))]) := by
    cbv
  obtain ⟨log, a⟩ : ∃ log, smallScanner.first mixedDisk []
      (.visit ([] ++ ["a"]) (.file [9, 97, 97, 13, 10, 9] .sound)) =
        (⟨log, [⟨"a", .tabsFound, [⟨1, 1⟩, ⟨2, 1⟩]⟩], 0, none⟩, []) :=
    ⟨_, first_visit_file _ _ _ ⟨rfl, by cbv⟩ (Prod.ext (Checker.checkFile_of_ok listed "a") rfl)⟩
  obtain ⟨log', b⟩ : ∃ log, smallScanner.first mixedDisk []
      (.visit ["b"] (.file [] (.closed .denied))) =
        (⟨log, [⟨"b", .unreadable, []⟩], 0, none⟩, []) := ⟨_, by cbv⟩
  rw [List.nil_append] at a
  simp [check, start, collect_cons, collect_nil, enter, a, b, Stretch.andThen, Stretch.noted,
    mixedReport]

/-- The tabs of the file that can be opened are all the tabs of the report. -/
theorem check_consistent_mixedDisk :
    (smallScanner.check mixedDisk ⟨"", "/", []⟩).1 = .ok mixedReport ∧
      (∀ file ∈ mixedReport.files, file.tabs.Pairwise Position.Before) ∧
      mixedReport.totalTabs = (mixedReport.filesWithTabs.map (·.tabs.length)).sum ∧
      0 < mixedReport.totalTabs := by
  have named : mixedDisk.root.Named := Node.named_of_leaves (by decide) (by decide) (by decide)
  obtain ⟨files, -, total, any, -⟩ := check_consistent named check_mixedDisk
  refine ⟨check_mixedDisk, fun file member => ?_, total, any.mp (by decide)⟩
  obtain ⟨found, place, content, access, -, -, -, -, ⟨pieces, -, describes⟩, -⟩ :=
    files file member
  exact describes.ordered

end Scanner

end TabAudit
