import Mathlib
import TabAudit.Console.Terminal
import TabAudit.Proofs.Command.Told
import TabAudit.Proofs.Log.View
import TabAudit.Proofs.Scan.Report
import TabAudit.Proofs.Terminal.Laws
import TabAudit.Yaml.Library

/-!
# What the number of an ending tells

A check that is prepared for whatever goes wrong ends with 2 just where something that it was told
cannot be used, and otherwise with 1 just where the report of the scan has a tab. What it is not
prepared for ends it with 1 as well.
-/

namespace TabAudit

/-! ## Scans that come to a report -/

/-- Whether the system answers what a path leads to once there are no links in it: the path has such
a name, and is not refused under it but for causes that count as if nothing were there. -/
def Disk.Answers (d : Disk) (p : Path) : Prop :=
  ∃ names, d.resolve p = .ok names ∧
    ∀ cause path, d.findNames names = .error (.refused cause path) → cause.isPassedOver = true

namespace Scanner

variable {s : Scanner} {d : Disk} {root : List String} {p : Path} {report : ScanReport}

theorem begins_of_answers (h : d.Answers p) (fault : ScanFault) :
    (begin d p).1 ≠ .error fault := by
  obtain ⟨names, resolved, passed⟩ := h
  intro failed
  simp only [begin, resolved] at failed
  split at failed
  · rename_i e refused
    unfold Disk.ifThere at refused
    split at refused
    · cases refused
    · rename_i cause path located
      rw [if_pos (passed cause path located)] at refused
      cases refused
    · cases refused
  · cases failed
  · split at failed <;> cases failed

/-- Whether the decoder of a scanner fails, if at all, as a scan expects, on every file that a scan
comes to and that can be opened. -/
def GracefulBelow (s : Scanner) (d : Disk) (p : Path) : Prop :=
  ∀ root found, d.resolve p = .ok root → d.findNames root = .ok found →
    ∀ place content access, s.Includes [] found.node place → Listed d root found.node place →
      found.node.at? place = some (.file content access) → (∀ cause, access ≠ .closed cause) →
      s.checker.encoding.stream.Graceful (Node.source content access).content

theorem check_gives_report (ht : 1 ≤ s.checker.threshold) (hb : 1 ≤ s.checker.bufferSize)
    (fits : memoryFault? s.checker.bufferSize.toNat = none) (named : d.root.Named)
    (answers : d.Answers p) (graceful : s.GracefulBelow d p) :
    ∃ report, (s.check d p).1 = .ok report := by
  rcases start : begin d p with ⟨fault | ⟨root, tasks⟩, log⟩
  · exact absurd (congrArg Prod.fst start) (begins_of_answers answers fault)
  have smooth : (s.collect d root tasks).fault = none := by
    -- Without a directory to begin at there are no tasks, and nothing goes wrong with none.
    rcases begin_eq start with rfl | ⟨found, resolved, located, directory, rfl⟩
    · rw [collect_nil, Stretch.noted_fault]
    · refine (sound_iff directory (Disk.named_of_findNames named located)).mpr ?_
      intro place content access included listed there
      exact s.checker.settles_file ht hb fits
        (graceful root found resolved located place content access included listed there) _
  simp only [check, start, smooth]
  exact ⟨_, rfl⟩

end Scanner

/-! ## How a check ends -/

/-- Whether a scan can start at a path: it leads to a directory. -/
def Disk.IsRoot (d : Disk) (p : Path) : Prop :=
  ∃ found, d.findText .target (p.text '/') = .ok found ∧ found.node.isDirectory = true

theorem Disk.rootFault?_eq_none_iff {d : Disk} {p : Path} : d.rootFault? p = none ↔ d.IsRoot p := by
  unfold rootFault? IsRoot
  constructor
  · intro h
    split at h
    · cases h
    · cases h
    · rename_i found located
      split at h
      · exact ⟨found, ifThere_eq_some.mp located, by assumption⟩
      · cases h
  · rintro ⟨found, there, directory⟩
    have located : d.locate? p = .ok (some found) := ifThere_eq_some.mpr there
    simp only [located, directory, if_true]

namespace CheckRequest

section

variable [Runtime] {r : CheckRequest} {d : Disk} {env : Environment}

/-- Whether all that a check is told can be used: its settings, those of its log, its root, and
those of its scan. -/
def Usable (r : CheckRequest) (d : Disk) (env : Environment) : Prop :=
  ∃ s, r.Told d env s ∧ s.logging.Usable ∧ d.IsRoot (Path.read r.path) ∧ s.scan.Usable

/-- What a check scans with, and the report that it comes to. -/
structure Reports (r : CheckRequest) (d : Disk) (env : Environment) (s : Settings)
    (scanner : Scanner) (report : ScanReport) : Prop where
  told : r.Told d env s
  log : ∃ view, LogView.make s.logging.level s.logging.format = .ok view
  root : d.IsRoot (Path.read r.path)
  made : s.scan.scanner.1 = .ok scanner
  scanned : (scanner.check d (Path.read r.path)).1 = .ok report

variable {s : Settings} {view : LogView} {scanner : Scanner}

theorem Usable.parts (h : r.Usable d env) (settings : r.settings d env = .ok s) :
    s.logging.Usable ∧ d.rootFault? (Path.read r.path) = none ∧ s.scan.Usable := by
  obtain ⟨s', told, log, root, scan⟩ := h
  obtain rfl : s = s' := Except.ok.inj (settings.symm.trans (told_iff.mpr told))
  exact ⟨log, Disk.rootFault?_eq_none_iff.mpr root, scan⟩

variable [Terminal]

/-- Whether a check is prepared for whatever goes wrong: nothing is wrong with its file that is not
caught, the log is plain, the system answers what a root that will do leads to, the buffer has a
size in memory, no file is decoded with a fault that a scan does not expect, and all that it has to
say can be printed. -/
structure Foreseen (r : CheckRequest) (d : Disk) (env : Environment) : Prop where
  file : r.FileForeseen d
  log : ∀ s, r.Told d env s → s.logging.Plain
  named : d.root.Named
  root : d.IsRoot (Path.read r.path) → d.Answers (Path.read r.path)
  room : ∀ s, r.Told d env s → memoryFault? s.scan.bufferSize.toNat = none
  graceful : ∀ s scanner, r.Told d env s → s.scan.scanner.1 = .ok scanner →
    scanner.GracefulBelow d (Path.read r.path)
  output : ∀ before piece, Terminal.outputFault? before piece = none
  errors : ∀ piece, Terminal.errorFault? piece = none

/-- What an ending tells of a check. -/
inductive Tells (r : CheckRequest) (d : Disk) (env : Environment) : Ending → Prop where
  | finished {s : Settings} {scanner : Scanner} {report : ScanReport}
    (reports : r.Reports d env s scanner report) : Tells r d env (.finished report.hasTabs)
  | complaint {c : Complaint} (unusable : ¬ r.Usable d env) : Tells r d env (.complaint c)
  | surprise {c : Surprise} (unforeseen : ¬ r.Foreseen d env) : Tells r d env (.surprise c)

/-- A check that is prepared for whatever goes wrong comes to a report. -/
theorem Foreseen.report (h : r.Foreseen d env) (settings : r.settings d env = .ok s)
    (root : d.IsRoot (Path.read r.path)) (made : s.scan.scanner.1 = .ok scanner) :
    ∃ report, (scanner.check d (Path.read r.path)).1 = .ok report := by
  obtain ⟨checker, -⟩ := ScanSettings.scanner_eq_ok_iff.mp made
  obtain ⟨threshold, size, text, encoding, -, -, same⟩ := Checker.make_eq_ok_iff.mp checker
  have told := told_iff.mp settings
  have room := h.room s told
  have graceful := h.graceful s scanner told made
  refine Scanner.check_gives_report ?_ ?_ ?_ h.named (h.root root) graceful
  all_goals
    rw [same]
    assumption

theorem Reports.usable {report : ScanReport} (h : r.Reports d env s scanner report)
    (foreseen : r.Foreseen d env) : r.Usable d env := by
  obtain ⟨view, log⟩ := h.log
  have sound := (foreseen.log s h.told).sound log
  exact ⟨s, h.told, LogSettings.usable_iff.mpr ⟨view, log, sound⟩, h.root,
    ScanSettings.exists_scanner_eq_ok_iff.mp ⟨scanner, h.made⟩⟩

end

/-- A request to check a tree of UTF-8 in blocks of four bytes. -/
def plainRequest : CheckRequest := ⟨"/", [], some "utf-8", some 1, some 4, none, false⟩

/-- An environment where nothing is left out. -/
def nothingLeftOut : Environment := [("NOTABS_SCAN_EXCLUDE_GLOBS", "")]

def plainSettings : Settings := ⟨⟨[], some "utf-8", 1, 4⟩, Settings.builtIn.logging⟩

def plainScanner : Scanner := ⟨⟨"utf-8", .known .utf8, 1, 4⟩, []⟩

attribute [local instance] Yaml.runtime Console.usual

end CheckRequest

end TabAudit
