import Mathlib
import TabAudit.Proofs.Command.Settings
import TabAudit.Proofs.Scan.Sight
import TabAudit.Yaml.Library

/-!
# More globs

A file is left out with a glob more just if the glob takes it or a directory above it. All other
files are reported as before, in the same order, however early a directory is passed over. In which
order the globs are given, and how often, has no part in a scan.
-/

namespace TabAudit

/-- A path below the root and those of the directories above it. -/
def Path.ways (path : String) : List String :=
  ((splitAtEach '/' path.toList).inits.filter (· ≠ [])).map fun way =>
    String.ofList (joinWith '/' way)

theorem Path.mem_ways_joinNames {place : List String} (some_ : place ≠ [])
    (free : ∀ name ∈ place, '/' ∉ name.toList) {path : String} :
    path ∈ Path.ways (Path.joinNames '/' place) ↔
      ∃ way, way <+: place ∧ way ≠ [] ∧ path = Path.joinNames '/' way := by
  have cut : splitAtEach '/' (Path.joinNames '/' place).toList = place.map String.toList := by
    rw [Path.joinNames, String.toList_ofList]
    exact splitAtEach_joinWith (by simpa using some_) (by simpa using free)
  simp only [Path.ways, cut, List.mem_map, List.mem_filter, List.mem_inits, decide_eq_true_eq]
  constructor
  · rintro ⟨way, ⟨front, proper⟩, rfl⟩
    obtain ⟨names, start, rfl⟩ := List.prefix_map_iff.mp front
    exact ⟨names, start, by simpa using proper, rfl⟩
  · rintro ⟨way, front, proper, rfl⟩
    exact ⟨_, ⟨front.map _, by simpa using proper⟩, rfl⟩

/-! ## What the globs of a list take -/

/-- Whether a glob takes a path. -/
def Text.Takes [Runtime] (t : Text) (path : String) : Prop :=
  ∃ p, Pattern.ofMember? (.str t) = .ok (some p) ∧ p.accepts path = true

theorem Pattern.any_ofMembers_iff [Runtime] {globs : List Text} {ps : List Pattern}
    (h : ofMembers (globs.map .str) = .ok ps) (path : String) :
    (ps.any (·.accepts path)) = true ↔ ∃ t ∈ globs, t.Takes path := by
  induction globs generalizing ps with
  | nil =>
    cases h
    simp
  | cons t rest ih =>
    rw [List.map_cons, ofMembers] at h
    cases first : ofMember? (.str t) with
    | error e => simp [first] at h
    | ok p =>
      cases others : ofMembers (rest.map .str) with
      | error e => simp [first, others] at h
      | ok qs =>
        obtain rfl : p.toList ++ qs = ps := by simpa [first, others] using h
        have takes : t.Takes path ↔ p.toList.any (·.accepts path) = true := by
          unfold Text.Takes
          cases p <;> simp [first]
        rw [List.any_append, Bool.or_eq_true, ← takes, ih others]
        simp

namespace Scanner

variable {s few both added : Scanner} {d : Disk} {root front place : List String} {n node : Node}

/-! ## Places -/

section More

variable (more : ∀ path, both.excludes path = (few.excludes path || added.excludes path))

include more

theorem passes_more : both.Passes place node ↔
    few.Passes place node ∧ added.excludes (Path.joinNames '/' place) = false := by
  unfold Passes
  rw [more, Bool.or_eq_false_iff, and_assoc]

/-- With more globs a scan looks at the files that no further glob takes, them or a directory above
them. -/
theorem includes_more (some_ : place ≠ []) : both.Includes front n place ↔
    few.Includes front n place ∧
      ∀ way, way <+: place → way ≠ [] →
        added.excludes (Path.joinNames '/' (front ++ way)) = false := by
  constructor
  · rintro ⟨reach, content, access, there, last⟩
    have passes {way : List String} (start : way <+: place) (some_ : way ≠ []) {node : Node}
        (here : n.at? way = some node) : both.Passes (front ++ way) node :=
      Includes.passes_front ⟨reach, content, access, there, last⟩ start some_ here
    refine ⟨⟨⟨reach.lists, fun way start _ some_ node here => ?_⟩, content, access, there, ?_⟩,
      fun way start some_ => ?_⟩
    · exact ((passes_more more).mp (passes start some_ here)).1
    · exact ((passes_more more).mp last).1
    · obtain ⟨node, here⟩ : ∃ node, n.at? way = some node := by
        by_cases whole : way = place
        · exact ⟨_, whole ▸ there⟩
        · obtain ⟨entries, here⟩ := reach.lists way start whole
          exact ⟨_, here⟩
      exact ((passes_more more).mp (passes start some_ here)).2
  · rintro ⟨⟨reach, content, access, there, last⟩, free⟩
    refine ⟨⟨reach.lists, fun way start proper some_ node here => ?_⟩, content, access, there, ?_⟩
    · exact (passes_more more).mpr ⟨reach.passes way start proper some_ node here,
        free way start some_⟩
    · exact (passes_more more).mpr ⟨last, free place List.prefix_rfl some_⟩

end More

/-! ## Reports -/

theorem checked_unique : Relator.RightUnique (s.Checked d root front n) := by
  rintro place file other ⟨content, access, log, there, checked⟩ ⟨_, _, _, again, rechecked⟩
  cases there.symm.trans again
  exact Except.ok.inj (congrArg Prod.fst (checked.symm.trans rechecked))

/-- Whether no glob of a scanner takes a path or a directory above it. -/
def spares (s : Scanner) (path : String) : Bool := !(Path.ways path).any s.excludes

theorem spares_iff (some_ : place ≠ []) (free : ∀ name ∈ place, '/' ∉ name.toList) :
    s.spares (Path.joinNames '/' place) = true ↔
      ∀ way, way <+: place → way ≠ [] → s.excludes (Path.joinNames '/' way) = false := by
  unfold spares
  rw [Bool.not_eq_true', List.any_eq_false]
  constructor
  · intro kept way start proper
    exact Bool.eq_false_iff.mpr
      (kept _ ((Path.mem_ways_joinNames some_ free).mpr ⟨way, start, proper, rfl⟩))
  · rintro kept path member
    obtain ⟨way, start, proper, rfl⟩ := (Path.mem_ways_joinNames some_ free).mp member
    exact Bool.eq_false_iff.mp (kept way start proper)

/-- A survey with more globs has the results of the files that the further globs spare. -/
theorem Survey.more (more : ∀ path, both.excludes path = (few.excludes path || added.excludes path))
    (same : both.checker = few.checker) (directory : n.isDirectory = true) (named : n.Named)
    {places places' out out' : List (List String)} {r r' : Stretch}
    (h : few.Survey d root [] n n.entries places out r)
    (h' : both.Survey d root [] n n.entries places' out' r') :
    r'.files = r.files.filter fun file => added.spares file.path := by
  have inside {s : Scanner} {place : List String} (included : s.Includes [] n place) :
      place ≠ [] ∧ ∀ name ∈ place, '/' ∉ name.toList := by
    obtain ⟨content, access, there, -⟩ := included.2
    exact ⟨not_dir_file directory there, named.free_of_at? there⟩
  -- Both surveys go through the tree in its own order, so it is enough to know what they find.
  have spared : places' = places.filter fun place => added.spares (Path.joinNames '/' place) := by
    refine Node.row_unique h'.order (h.order.filter _) fun place => ?_
    rw [List.mem_filter, h.mem_found_iff directory, h'.mem_found_iff directory]
    constructor
    · intro included
      obtain ⟨some_, free⟩ := inside included
      obtain ⟨included, kept⟩ := (includes_more more some_).mp included
      exact ⟨included, (spares_iff some_ free).mpr kept⟩
    · rintro ⟨included, kept⟩
      obtain ⟨some_, free⟩ := inside included
      exact (includes_more more some_).mpr ⟨included, (spares_iff some_ free).mp kept⟩
  have filtered : List.Forall₂ (few.Checked d root [] n) places'
      (r.files.filter fun file => added.spares file.path) := by
    rw [spared]
    refine List.rel_filter (fun place file checked => ?_) h.files
    obtain ⟨content, access, log, there, checked⟩ := checked
    have path : file.path = Path.joinNames '/' place := Checker.checkFile_path checked
    show added.spares (Path.joinNames '/' place) = true ↔ added.spares file.path = true
    rw [path]
  have files := h'.files
  rw [show both.Checked d root [] n = few.Checked d root [] n by unfold Checked; rw [same]] at files
  exact checked_unique.forall₂ files filtered

/-- Scanners that check alike and leave out the same paths scan alike. -/
theorem check_congr {other : Scanner} (same : other.checker = s.checker)
    (takes : ∀ path, other.excludes path = s.excludes path) (d : Disk) (p : Path) :
    other.check d p = s.check d p := by
  have perform (root : List String) (t : Task) : other.perform d root t = s.perform d root t := by
    unfold Scanner.perform
    simp only [same, takes]
  have collect (root : List String) (tasks : List Task) :
      other.collect d root tasks = s.collect d root tasks :=
    collect_of_does fun t _ => by rw [first, first, perform]
  unfold check
  simp only [collect]

end Scanner

namespace ScanSettings

open Scanner

section

variable [Runtime] {s : ScanSettings} {few : Scanner}

/-- With other globs in the settings, or set anew, the scanner differs in what it leaves out. -/
theorem exists_scanner_globs (made : s.scanner.1 = .ok few) {globs : List Text}
    (accepted : ∀ t ∈ globs, t.IsGlob) :
    ∃ other, ({ s with excludeGlobs := globs } : ScanSettings).scanner.1 = .ok other ∧
      few.setGlobs (.list (globs.map .str)) = .ok other ∧ other.checker = few.checker ∧
      ∀ path, other.excludes path = true ↔ ∃ t ∈ globs, t.Takes path := by
  obtain ⟨checker, -⟩ := scanner_eq_ok_iff.mp made
  obtain ⟨ps, compiled⟩ := Pattern.exists_ofMembers_eq_ok_iff.mpr accepted
  refine ⟨⟨few.checker, ps⟩, scanner_eq_ok_iff.mpr ⟨checker, compiled⟩, ?_, rfl,
    fun path => Pattern.any_ofMembers_iff compiled path⟩
  simp [setGlobs, Pattern.compileCollection, Value.members?, compiled]

/-- With more globs, in the settings or set anew, a scan reports just the files that no further glob
takes, them or a directory above them, each as before and in the same order. Globs in another order
or given more often change nothing. -/
theorem check_more_globs (made : s.scanner.1 = .ok few) {extra : List Text}
    (accepted : ∀ t ∈ extra, t.IsGlob) :
    ∃ both added,
      ({ s with excludeGlobs := s.excludeGlobs ++ extra } : ScanSettings).scanner.1 = .ok both ∧
      few.setGlobs (.list ((s.excludeGlobs ++ extra).map .str)) = .ok both ∧
      few.setGlobs (.list (extra.map .str)) = .ok added ∧
      (∀ (d : Disk) (p : Path) (root : List String) (found : Located), d.resolve p = .ok root →
        d.findNames root = .ok found → found.node.Named →
        (∀ place content access, few.Includes [] found.node place →
          Listed d root found.node place → found.node.at? place = some (.file content access) →
          few.checker.Settles (d.display (root ++ place)) (.file content access)) →
        ∃ report report', (few.check d p).1 = .ok report ∧ (both.check d p).1 = .ok report' ∧
          report'.root = report.root ∧ report'.files = report.files.filter fun file =>
            !(Path.ways file.path).any added.excludes) ∧
      ∀ globs : List Text, (∀ t, t ∈ globs ↔ t ∈ s.excludeGlobs) →
        ∃ same, ({ s with excludeGlobs := globs } : ScanSettings).scanner.1 = .ok same ∧
          few.setGlobs (.list (globs.map .str)) = .ok same ∧
          ∀ (d : Disk) (p : Path), same.check d p = few.check d p := by
  have usable := (exists_scanner_eq_ok_iff.mp ⟨few, made⟩).globs
  obtain ⟨few', remade, -, -, takes_few⟩ := exists_scanner_globs made usable
  obtain rfl : few' = few := Except.ok.inj (remade.symm.trans made)
  obtain ⟨added, -, set_added, -, takes_added⟩ := exists_scanner_globs made accepted
  obtain ⟨both, made_both, set_both, same, takes_both⟩ :=
    exists_scanner_globs made (List.forall_mem_append.mpr ⟨usable, accepted⟩)
  have more (path : String) :
      both.excludes path = (few'.excludes path || added.excludes path) := by
    rw [Bool.eq_iff_iff, Bool.or_eq_true, takes_both, takes_few, takes_added]
    simp only [List.mem_append, or_and_right, exists_or]
  refine ⟨both, added, made_both, set_both, set_added,
    fun d p root found resolved located named settles => ?_, fun globs members => ?_⟩
  · cases directory : found.node.isDirectory with
    | false =>
      exact ⟨_, _, check_not_directory resolved located directory,
        check_not_directory resolved located directory, rfl, rfl⟩
    | true =>
      -- No further glob makes a scan look at a file that it did not look at without them.
      obtain ⟨places, out, survey, -⟩ := survey_shut directory named settles
      obtain ⟨places', out', survey', -⟩ := survey_shut (s := both) directory named
        fun place content access included listed there => by
          have some_ := not_dir_file directory there
          rw [same]
          exact settles place content access ((includes_more more some_).mp included).1 listed
            there
      refine ⟨_, _, check_of_collect resolved located directory survey.fault,
        check_of_collect resolved located directory survey'.fault, rfl, ?_⟩
      exact survey.more more same ((Node.isDirectory_shut d root _).trans directory)
        (named.shut d root) survey'
  · have accepted : ∀ t ∈ globs, t.IsGlob := fun t member => usable t ((members t).mp member)
    obtain ⟨other, made_other, set_other, checker, takes_other⟩ :=
      exists_scanner_globs made accepted
    refine ⟨other, made_other, set_other, check_congr checker fun path => ?_⟩
    rw [Bool.eq_iff_iff, takes_other, takes_few]
    simp only [members]

end

attribute [local instance] Yaml.runtime

/-- Settings that leave out `old`. -/
def smallSettings : ScanSettings := ⟨[.ofString "old"], some (.ofString "utf-8"), 1, 4⟩

def libPattern : Pattern :=
  ⟨"lib", "lib", [⟨.exactly 'l', .one⟩, ⟨.exactly 'i', .one⟩, ⟨.exactly 'b', .one⟩]⟩

/-- The small tree with `lib` left out as well. -/
theorem check_more_globs_smallTree :
    ∃ both report report',
      ({ smallSettings with excludeGlobs := [.ofString "old", .ofString "lib"] } :
        ScanSettings).scanner.1 = .ok both ∧
      (smallScanner.check ⟨smallTree, [], ""⟩ ⟨"", "/", []⟩).1 = .ok report ∧
      (both.check ⟨smallTree, [], ""⟩ ⟨"", "/", []⟩).1 = .ok report' ∧
      (∀ file ∈ report'.files, file ∈ report.files ∧ file.path ≠ "lib/a") ∧
      ∀ file ∈ report.files, file.path = "b" → file ∈ report'.files := by
  have made : smallSettings.scanner.1 = .ok smallScanner := by cbv
  have compiled : Pattern.ofMembers [.str (.ofString "lib")] = .ok [libPattern] := by cbv
  have set_lib : smallScanner.setGlobs (.list [.str (.ofString "lib")]) =
      .ok ⟨smallScanner.checker, [libPattern]⟩ := by cbv
  have accepted : ∀ t ∈ [Text.ofString "lib"], t.IsGlob :=
    Pattern.exists_ofMembers_eq_ok_iff.mp ⟨_, compiled⟩
  obtain ⟨both, added, made_both, -, set_added, reports, -⟩ := check_more_globs made accepted
  obtain ⟨report, report', whole, whole', -, files⟩ :=
    reports ⟨smallTree, [], ""⟩ ⟨"", "/", []⟩ [] ⟨[], smallTree⟩ (by cbv) (by cbv) smallTree_named
      fun place content access _ _ there => smallTree_settles place content access there _
  cases set_lib.symm.trans set_added
  have taken : (Path.ways "lib/a").any (excludes ⟨smallScanner.checker, [libPattern]⟩) = true := by
    cbv
  have spared : (Path.ways "b").any (excludes ⟨smallScanner.checker, [libPattern]⟩) = false := by
    cbv
  refine ⟨both, report, report', made_both, whole, whole', fun file member => ?_,
    fun file member path => ?_⟩
  · rw [files, List.mem_filter] at member
    refine ⟨member.1, fun path => ?_⟩
    simp [path, taken] at member
  · rw [files, List.mem_filter]
    exact ⟨member, by rw [path, spared]; rfl⟩

end ScanSettings

end TabAudit
