import Mathlib
import TabAudit.Proofs.Scan.Coverage
import TabAudit.Proofs.Scan.Walk
import TabAudit.Scan.Session
import TabAudit.Yaml.Library

/-!
# Calls do not disturb each other

The walks and the whole scans of one scanner share its globs and its count. A whole scan starts the
count anew and is over before anyone else can count, and a walk reads nothing but the globs and its
own tasks. So each comes to what it would come to alone, in whatever order the calls are made.
-/

namespace TabAudit

namespace Scanner

variable {s : Scanner} {d : Disk} {root : List String} {count : Nat} {tasks left : List Task}
  {log : Log}

/-! ## The count beside the tasks -/

/-- What doing tasks up to the first file comes to, with so many entries left out. -/
def reached (outcome : Except FileFault (Option CheckedFile)) (excluded : Nat) (log : Log) :
    Stretch :=
  match outcome with
  | .error fault => ⟨log, [], excluded, some (.file fault)⟩
  | .ok file => ⟨log, file.toList, excluded, none⟩

theorem andThen_reached (before after : Log) (j k : Nat)
    (outcome : Except FileFault (Option CheckedFile)) :
    Stretch.andThen ⟨before, [], j, none⟩ (reached outcome k after) =
      reached outcome (j + k) (before ++ after) := by
  cases outcome <;> rfl

/-- Doing tasks up to the first file and then all that are left is doing all of them, and the count
grows by what is left out on the way. -/
theorem pursue_collect {count' : Nat} {outcome : Except FileFault (Option CheckedFile)}
    (h : s.pursue d root count tasks = (outcome, left, count', log)) :
    ∃ k, count' = count + k ∧
      s.collect d root tasks = (reached outcome k log).andThen (s.collect d root left) ∧
      (outcome = .ok none → left = []) := by
  fun_induction pursue s d root count tasks generalizing count' outcome left log with
  | case1 count =>
    cases h
    exact ⟨0, rfl, by rw [collect_nil]; rfl, fun _ => rfl⟩
  | case2 count t rest more before leads outcome left count₁ later further ih =>
    cases h
    obtain ⟨k, grown, whole, ends⟩ := ih further
    refine ⟨k, grown, ?_, ends⟩
    have alone : s.first d root t = (⟨before, [], 0, none⟩, more) := by simp only [first, leads]
    rw [collect_cons, alone, whole, ← Stretch.andThen_assoc, andThen_reached, Nat.zero_add]
  | case3 count t rest before leads outcome left count₁ later further ih =>
    cases h
    obtain ⟨k, grown, whole, ends⟩ := ih further
    refine ⟨1 + k, by omega, ?_, ends⟩
    have alone : s.first d root t = (⟨before, [], 1, none⟩, []) := by simp only [first, leads]
    rw [collect_cons, alone, List.nil_append, whole, ← Stretch.andThen_assoc, andThen_reached]
  | case4 count t rest file log leads =>
    cases h
    have alone : s.first d root t = (⟨log, [file], 0, none⟩, []) := by simp only [first, leads]
    exact ⟨0, rfl, by rw [collect_cons, alone]; rfl, by simp⟩
  | case5 count t rest fault log leads =>
    cases h
    have alone : s.first d root t = (⟨log, [], 0, some (.file fault)⟩, []) := by
      simp only [first, leads]
    exact ⟨0, rfl, by rw [collect_cons, alone]; rfl, by simp⟩

/-- Counting has no part in what is found. -/
theorem pursue_eq_advance {count' : Nat} {outcome : Except FileFault (Option CheckedFile)}
    (h : s.pursue d root count tasks = (outcome, left, count', log)) :
    s.advance d root tasks = (outcome, left, log) := by
  fun_induction pursue s d root count tasks generalizing count' outcome left log with
  | case1 =>
    cases h
    rw [advance]
  | case2 count t rest more before leads outcome left count₁ later further ih =>
    cases h
    rw [advance]
    split <;> rename_i other <;> rw [leads] at other <;> cases other
    rw [ih further]
  | case3 count t rest before leads outcome left count₁ later further ih =>
    cases h
    rw [advance]
    split <;> rename_i other <;> rw [leads] at other <;> cases other
    rw [ih further]
  | case4 count t rest file log leads =>
    cases h
    rw [advance]
    split <;> rename_i other <;> rw [leads] at other <;> cases other
    rfl
  | case5 count t rest fault log leads =>
    cases h
    rw [advance]
    split <;> rename_i other <;> rw [leads] at other <;> cases other
    rfl

/-! ## Whole scans -/

/-- Whether a stretch ends in some way: with all of its files, or with a fault. -/
def EndsIn (r : Stretch) : Except FileFault (List CheckedFile) → Prop
  | .ok files => r.files = files ∧ r.fault = none
  | .error fault => r.fault = some (.file fault)

/-- Asking for files until there are none comes to all tasks at once. -/
theorem drain_collect (s : Scanner) (d : Disk) (root : List String) (count : Nat)
    (tasks : List Task) :
    (s.drain d root count tasks).2 =
        (count + (s.collect d root tasks).excluded, (s.collect d root tasks).log) ∧
      EndsIn (s.collect d root tasks) (s.drain d root count tasks).1 := by
  fun_induction drain s d root count tasks with
  | case1 count tasks fault left count' log pursued =>
    obtain ⟨k, rfl, whole, -⟩ := pursue_collect pursued
    rw [whole]
    exact ⟨rfl, rfl⟩
  | case2 count tasks left count' log pursued =>
    obtain ⟨k, rfl, whole, ends⟩ := pursue_collect pursued
    rw [whole, ends rfl, collect_nil]
    exact ⟨by simp [reached, Stretch.andThen, Stretch.noted], rfl, rfl⟩
  | case3 count tasks file left count' log pursued outcome count'' later drained ih =>
    obtain ⟨k, rfl, whole, -⟩ := pursue_collect pursued
    rw [drained] at ih
    obtain ⟨rest, files⟩ := ih
    simp only [Prod.mk.injEq] at rest
    obtain ⟨rfl, rfl⟩ := rest
    rw [whole, reached, Stretch.andThen_of_none rfl]
    refine ⟨by simp [Nat.add_assoc], ?_⟩
    cases outcome with
    | ok files' => exact ⟨congrArg (file :: ·) files.1, files.2⟩
    | error fault => exact files

/-- A whole scan that counts for itself gives the report of a scan that nobody shares. -/
theorem checkCount_eq_check (s : Scanner) (d : Disk) (count : Nat) (p : Path) :
    ((s.checkCount d count p).1, (s.checkCount d count p).2.2) = s.check d p := by
  unfold checkCount check beginCount
  rcases begin d p with ⟨fault | ⟨root, tasks⟩, log⟩
  · cases fault <;> rfl
  · obtain ⟨same, ends⟩ := drain_collect s d root 0 tasks
    rcases drained : s.drain d root 0 tasks with ⟨fault | files, count', later⟩
    · rw [drained] at same ends
      simp only [Prod.mk.injEq] at same
      have failed : (s.collect d root tasks).fault = some (.file fault) := ends
      simp only [drained, failed, same.2]
    · rw [drained] at same ends
      simp only [Prod.mk.injEq, Nat.zero_add] at same
      simp only [drained, ends.1, ends.2, same.1, same.2]

/-! ## Walks -/

theorem nextCount_eq_next (s : Scanner) (d : Disk) (count : Nat) (w : Walk) :
    ((s.nextCount d count w).1, (s.nextCount d count w).2.1, (s.nextCount d count w).2.2.2) =
      s.next d w := by
  have under (root : List String) (count : Nat) (tasks : List Task) :
      s.advance d root tasks = ((s.pursue d root count tasks).1, (s.pursue d root count tasks).2.1,
        (s.pursue d root count tasks).2.2.2) := pursue_eq_advance rfl
  cases w with
  | under root tasks =>
    simp only [nextCount, next, under root count tasks]
    rcases s.pursue d root count tasks with ⟨fault | file, left, count', log⟩ <;> rfl
  | waiting p =>
    simp only [nextCount, next, beginCount]
    rcases begin d p with ⟨fault | ⟨root, tasks⟩, log⟩
    · cases fault <;> rfl
    · simp only [under root 0 tasks]
      rcases s.pursue d root 0 tasks with ⟨fault | file, left, count', log⟩ <;> rfl

/-- A walk that has nothing to give is at its end. -/
theorem advance_none (h : s.advance d root tasks = (.ok none, left, log)) : left = [] := by
  rcases pursued : s.pursue d root 0 tasks with ⟨outcome, left', count, log'⟩
  obtain ⟨k, -, -, ends⟩ := pursue_collect pursued
  rw [pursue_eq_advance pursued] at h
  cases h
  exact ends rfl

theorem next_none {w w' : Walk} (h : s.next d w = (.ok none, w', log)) :
    ∃ root, w' = .under root [] := by
  have under {root : List String} {tasks : List Task} {log : Log}
      (h : s.next d (.under root tasks) = (.ok none, w', log)) : ∃ root, w' = .under root [] := by
    rcases advanced : s.advance d root tasks with ⟨fault | file, left, later⟩
    · simp [next, advanced] at h
    · simp only [next, advanced, Prod.mk.injEq, Except.ok.injEq] at h
      obtain ⟨rfl, rfl, -⟩ := h
      exact ⟨root, by rw [advance_none advanced]⟩
  cases w with
  | under root tasks => exact under h
  | waiting p =>
    rcases start : begin d p with ⟨fault | ⟨root, tasks⟩, later⟩
    · simp [next, start] at h
    · obtain ⟨outcome, walk⟩ := next_waiting (s := s) start
      rw [h] at outcome walk
      have same : s.next d (.under root tasks) =
          (.ok none, w', (s.next d (.under root tasks)).2.2) :=
        Prod.ext outcome.symm (Prod.ext walk.symm rfl)
      exact under same

/-- A walk that gives files gives the first of them next, and then the others. -/
theorem Gives.next {w : Walk} {files : List CheckedFile} (h : s.Gives d w files) :
    (s.next d w).1 = .ok files.head? ∧ s.Gives d (s.next d w).2.1 files.tail := by
  cases h with
  | ends last =>
    obtain ⟨root, rfl⟩ := next_none last
    rw [last]
    exact ⟨rfl, .ends (by simp only [Scanner.next, advance]; rfl)⟩
  | file next later =>
    rw [next]
    exact ⟨rfl, later⟩

/-- A walk of a tree gives the files of a whole scan. -/
theorem gives_of_check {p : Path} {report : ScanReport} (h : (s.check d p).1 = .ok report) :
    s.Gives d (.waiting p) report.files := by
  unfold check at h
  rcases start : begin d p with ⟨fault | ⟨root, tasks⟩, log⟩
  · rw [start] at h
    cases h
  · rw [start] at h
    dsimp only at h
    split at h
    · cases h
    · rename_i sound
      cases h
      exact (gives_begin_iff start).mpr (gives_collect sound)

end Scanner

namespace ScanSession

variable {s : Scanner} {d : Disk} {st : ScanSession} {number : Nat} {files : List CheckedFile}

section

variable [Runtime]

/-! ## The globs in force -/

namespace Call

/-- The globs in force after a call, when these were before. -/
def inForce (globs : Value) : Call → Value
  | .setGlobs new =>
    match Pattern.compileCollection new with
    | .ok _ => new
    | .error _ => globs
  | _ => globs

/-- Whether a call gives the scanner other globs. -/
def Resets (c : Call) : Prop :=
  ∃ globs patterns, c = .setGlobs globs ∧ Pattern.compileCollection globs = .ok patterns

/-- Whether a call asks a walk for its next file. -/
def asks (number : Nat) : Call → Bool
  | .next k => k = number
  | _ => false

end Call

/-- The globs in force after calls: those that were last set. -/
def globsAfter (globs : Value) (calls : List Call) : Value := calls.foldl Call.inForce globs

theorem run_append (a b : List Call) : st.run d (a ++ b) = (st.run d a).run d b :=
  List.foldl_append

theorem run_cons (c : Call) (calls : List Call) :
    st.run d (c :: calls) = ((st.step d c).2.1).run d calls := rfl

/-- Globs that can be set come to the same when a scanner is made from them. -/
theorem compileCollection_made {globs : Value} {patterns : List Pattern}
    (h : Pattern.compileCollection globs = .ok patterns) :
    Pattern.compileCollection (if globs.isTruthy then globs else .list []) = .ok patterns := by
  split
  · exact h
  · rename_i nothing
    cases globs with
    | list items =>
      obtain rfl : items = [] := by simpa [Value.isTruthy] using nothing
      exact h
    | tuple items =>
      obtain rfl : items = [] := by simpa [Value.isTruthy] using nothing
      exact h
    | set items =>
      obtain rfl : items = [] := by simpa [Value.isTruthy] using nothing
      exact h
    | dict pairs =>
      obtain rfl : pairs = [] := by simpa [Value.isTruthy] using nothing
      exact h
    | _ => cases h

theorem make_eq_ok_iff {globs : Value} {encoding : Option Text} {threshold bufferSize : Int} :
    (Scanner.make globs encoding threshold bufferSize).1 = .ok s ↔
      Checker.make (encoding.getD Scanner.platformEncoding) threshold bufferSize = .ok s.checker ∧
        Pattern.compileCollection (if globs.isTruthy then globs else .list []) =
          .ok s.patterns := by
  obtain ⟨checker, patterns⟩ := s
  unfold Scanner.make
  cases Checker.make (encoding.getD Scanner.platformEncoding) threshold bufferSize with
  | error fault => simp
  | ok checker =>
    cases Pattern.compileCollection (if globs.isTruthy then globs else .list []) <;> simp

/-- The scanner of a session is one that is made from the globs in force. -/
theorem made_step {globs : Value} {encoding : Option Text} {threshold bufferSize : Int}
    (made : (Scanner.make globs encoding threshold bufferSize).1 = .ok st.scanner) (c : Call) :
    (Scanner.make (c.inForce globs) encoding threshold bufferSize).1 =
      .ok (st.step d c).2.1.scanner := by
  cases c with
  | setGlobs new =>
    obtain ⟨checker, -⟩ := make_eq_ok_iff.mp made
    cases compiled : Pattern.compileCollection new with
    | error e => simpa only [step, Scanner.setGlobs, Call.inForce, compiled] using made
    | ok patterns =>
      simp only [step, Scanner.setGlobs, Call.inForce, compiled]
      exact make_eq_ok_iff.mpr ⟨checker, compileCollection_made compiled⟩
  | check p => exact made
  | start p => exact made
  | next k => exact made

theorem made_run {globs : Value} {encoding : Option Text} {threshold bufferSize : Int}
    (made : (Scanner.make globs encoding threshold bufferSize).1 = .ok st.scanner)
    (calls : List Call) :
    (Scanner.make (globsAfter globs calls) encoding threshold bufferSize).1 =
      .ok (st.run d calls).scanner := by
  induction calls generalizing globs st with
  | nil => exact made
  | cons c rest ih => exact ih (made_step made c)

/-! ## A malformed list -/

/-- Of the globs of a list the first that is malformed counts. -/
theorem ofMembers_malformed {before : List Value} (after : List Value) {bad : Value}
    {e : CollectionError}
    (good : ∀ glob ∈ before, ∃ pattern, Pattern.ofMember? glob = .ok pattern)
    (malformed : Pattern.ofMember? bad = .error e) :
    Pattern.ofMembers (before ++ bad :: after) = .error e := by
  induction before with
  | nil => simp only [List.nil_append, Pattern.ofMembers, malformed]
  | cons glob rest ih =>
    obtain ⟨pattern, compiled⟩ := good glob (by simp)
    simp only [List.cons_append, Pattern.ofMembers, compiled,
      ih fun glob member => good glob (by simp [member])]

theorem compileCollection_malformed {globs : Value} {before after : List Value} {bad : Value}
    {e : CollectionError} (members : globs.members? = some (before ++ bad :: after))
    (good : ∀ glob ∈ before, ∃ pattern, Pattern.ofMember? glob = .ok pattern)
    (malformed : Pattern.ofMember? bad = .error e) :
    Pattern.compileCollection globs = .error e := by
  have failed := ofMembers_malformed after good malformed
  cases globs <;> simp_all [Pattern.compileCollection, Value.members?]

/-! ## A walk among other calls -/

/-- A walk that no call has asked for a file is still to begin. -/
theorem run_unasked {p : Path} {calls : List Call} (waits : st.walks[number]? = some (.waiting p))
    (unasked : ∀ c ∈ calls, c.asks number = false) :
    (st.run d calls).walks[number]? = some (.waiting p) := by
  induction calls generalizing st with
  | nil => exact waits
  | cons c rest ih =>
    have other := unasked c (by simp)
    have still : (st.step d c).2.1.walks[number]? = some (.waiting p) := by
      cases c with
      | setGlobs globs =>
        cases set : st.scanner.setGlobs globs <;> simpa only [step, set] using waits
      | check p => exact waits
      | start q =>
        obtain ⟨inside, -⟩ := List.getElem?_eq_some_iff.mp waits
        simp only [step, List.getElem?_append_left inside, waits]
      | next k =>
        have apart : k ≠ number := by simpa [Call.asks] using other
        simp only [step, List.getElem?_set_ne apart, waits]
    exact ih still fun c member => unasked c (by simp [member])

/-- Where a session has a scanner and a walk that gives files. -/
structure Holds (d : Disk) (s : Scanner) (number : Nat) (files : List CheckedFile)
    (st : ScanSession) : Prop where
  scanner : st.scanner = s
  made : number < st.walks.length
  gives : s.Gives d (st.walks.getD number .finished) files

/-- Asked for its next file, a walk gives it. -/
theorem Holds.answer (h : Holds d s number files st) :
    (st.step d (.next number)).1 = .file (.ok files.head?) := by
  have same := Scanner.nextCount_eq_next st.scanner d st.excluded
    (st.walks.getD number .finished)
  have next := h.gives.next.1
  rw [← h.scanner, ← same] at next
  simp only [step]
  exact congrArg Answer.file next

/-- No call but one for other globs disturbs a walk. -/
theorem Holds.step (h : Holds d s number files st) {c : Call} (calm : ¬ c.Resets) :
    Holds d s number (if c.asks number then files.tail else files) (st.step d c).2.1 := by
  cases c with
  | setGlobs globs =>
    cases compiled : Pattern.compileCollection globs with
    | ok patterns => exact absurd ⟨globs, patterns, rfl, compiled⟩ calm
    | error e => simpa [ScanSession.step, Scanner.setGlobs, compiled, Call.asks] using h
  | check p => exact ⟨h.scanner, h.made, h.gives⟩
  | start p =>
    have inside := h.made
    refine ⟨h.scanner, by simp only [ScanSession.step, List.length_append]; omega, ?_⟩
    have gives := h.gives
    rw [← List.getD_append st.walks [.waiting p] .finished number inside] at gives
    exact gives
  | next k =>
    have same := Scanner.nextCount_eq_next st.scanner d st.excluded
      (st.walks.getD k .finished)
    refine ⟨h.scanner, by simpa only [ScanSession.step, List.length_set] using h.made, ?_⟩
    simp only [ScanSession.step]
    by_cases mine : k = number
    · subst mine
      have next := h.gives.next.2
      rw [← h.scanner, ← same] at next
      simpa [Call.asks, List.getD_eq_getElem?_getD, h.made, ← h.scanner] using next
    · simpa [Call.asks, List.getD_eq_getElem?_getD, mine] using h.gives

/-- However often other calls come in between, a walk gives its files one by one. -/
theorem Holds.run (h : Holds d s number files st) {calls : List Call}
    (calm : ∀ c ∈ calls, ¬ c.Resets) :
    Holds d s number (files.drop (calls.countP (·.asks number))) (st.run d calls) := by
  induction calls generalizing files st with
  | nil => exact h
  | cons c rest ih =>
    have after := ih (h.step (calm c (by simp))) fun c member => calm c (by simp [member])
    rw [run_cons, List.countP_cons]
    by_cases asked : c.asks number
    · simpa [asked, List.drop_tail, Nat.add_comm] using after
    · simpa [asked] using after

/-- A walk that was made begins with the globs that are in force when it is first asked for a file,
and from then on gives the files of a whole scan with these, whatever other calls come in between.
-/
theorem walk_undisturbed {p : Path} {idle calls : List Call} {report : ScanReport}
    (unasked : ∀ c ∈ idle, c.asks st.walks.length = false) (calm : ∀ c ∈ calls, ¬ c.Resets)
    (whole : ((st.run d (.start p :: idle)).scanner.check d p).1 = .ok report) :
    ((st.run d (.start p :: idle ++ calls)).step d (.next st.walks.length)).1 =
      .file (.ok report.files[calls.countP (·.asks st.walks.length)]?) := by
  have waits : ((st.step d (.start p)).2.1.run d idle).walks[st.walks.length]? =
      some (.waiting p) := run_unasked (by simp [step]) unasked
  rw [← run_cons] at waits
  have begun : Holds d (st.run d (.start p :: idle)).scanner st.walks.length report.files
      (st.run d (.start p :: idle)) := by
    obtain ⟨inside, -⟩ := List.getElem?_eq_some_iff.mp waits
    refine ⟨rfl, inside, ?_⟩
    rw [List.getD_eq_getElem?_getD, waits]
    exact Scanner.gives_of_check whole
  rw [run_append, (begun.run calm).answer, List.head?_drop]

/-- Whatever calls a scanner has served: a whole scan gives the report of a scanner made anew from
the globs that were last set, a malformed list is refused for its first malformed glob and changes
nothing, and a walk gives the files of a whole scan one by one while nobody sets other globs. -/
theorem run_undisturbed {globs : Value} {encoding : Option Text} {threshold bufferSize : Int}
    (made : (Scanner.make globs encoding threshold bufferSize).1 = .ok s) {calls : List Call}
    (ran : (fresh s).run d calls = st) :
    (∀ p, ∃ anew, (Scanner.make (globsAfter globs calls) encoding threshold bufferSize).1 =
          .ok anew ∧
        (st.step d (.check p)).1 = .report (anew.check d p).1) ∧
      (∀ list before bad after e, list.members? = some (before ++ bad :: after) →
        (∀ glob ∈ before, ∃ pattern, Pattern.ofMember? glob = .ok pattern) →
        Pattern.ofMember? bad = .error e →
        st.step d (.setGlobs list) = (.globsSet (.error e), st, [])) ∧
      ∀ p idle others anew report, (∀ c ∈ idle, c.asks st.walks.length = false) →
        (∀ c ∈ others, ¬ c.Resets) →
        (Scanner.make (globsAfter globs (calls ++ .start p :: idle)) encoding threshold
          bufferSize).1 = .ok anew →
        (anew.check d p).1 = .ok report →
        ((st.run d (.start p :: idle ++ others)).step d (.next st.walks.length)).1 =
          .file (.ok report.files[others.countP (·.asks st.walks.length)]?) := by
  subst ran
  have first : (Scanner.make globs encoding threshold bufferSize).1 = .ok (fresh s).scanner := made
  refine ⟨fun p => ⟨_, made_run (d := d) first calls, ?_⟩, ?_, ?_⟩
  · have same := congrArg Prod.fst (Scanner.checkCount_eq_check
      ((fresh s).run d calls).scanner d ((fresh s).run d calls).excluded p)
    rw [← same]
    rfl
  · intro list before bad after e members good malformed
    simp only [step, Scanner.setGlobs, compileCollection_malformed members good malformed]
  · intro p idle others anew report unasked calm known whole
    have inForce := made_run (d := d) first (calls ++ .start p :: idle)
    rw [run_append] at inForce
    obtain rfl := Except.ok.inj (known.symm.trans inForce)
    exact walk_undisturbed unasked calm whole

end

/-! ## Calls to a scanner -/

attribute [local instance] Yaml.runtime

/-- A disk with two files that cannot be opened and a directory. -/
def pairDisk : Disk :=
  ⟨.directory none [("old", .directory none []), ("b", .file [] (.closed .denied)),
    ("a", .file [] (.closed .denied))], [], ""⟩

/-- The report of a scan of this disk that leaves out `old`. -/
def pairReport : ScanReport := ⟨[], [⟨"a", .unreadable, []⟩, ⟨"b", .unreadable, []⟩], 1⟩

theorem check_pairDisk :
    (Scanner.smallScanner.check pairDisk ⟨"", "/", []⟩).1 = .ok pairReport := by
  have start : Scanner.begin pairDisk ⟨"", "/", []⟩ = (.ok ([], [.enter [] pairDisk.root]),
      [Log.debug "Project base directory is /"]) := by
    cbv
  have enter : Scanner.smallScanner.first pairDisk [] (.enter [] pairDisk.root) =
      (.noted [], [.visit ["old"] (.directory none []), .visit ["a"] (.file [] (.closed .denied)),
        .visit ["b"] (.file [] (.closed .denied))]) := by
    cbv
  obtain ⟨log, old⟩ : ∃ log, Scanner.smallScanner.first pairDisk []
      (.visit ["old"] (.directory none [])) = (⟨log, [], 1, none⟩, []) := ⟨_, by cbv⟩
  obtain ⟨log₁, a⟩ : ∃ log, Scanner.smallScanner.first pairDisk []
      (.visit ["a"] (.file [] (.closed .denied))) =
        (⟨log, [⟨"a", .unreadable, []⟩], 0, none⟩, []) := ⟨_, by cbv⟩
  obtain ⟨log₂, b⟩ : ∃ log, Scanner.smallScanner.first pairDisk []
      (.visit ["b"] (.file [] (.closed .denied))) =
        (⟨log, [⟨"b", .unreadable, []⟩], 0, none⟩, []) := ⟨_, by cbv⟩
  simp [Scanner.check, start, Scanner.collect_cons, Scanner.collect_nil, enter, old, a, b,
    Stretch.andThen, Stretch.noted, pairReport]

/-- A list of globs that can be set, and one whose second glob is malformed. -/
def oldGlobs : Value := .list [.str "old"]

def strayGlobs : Value := .list [.str "*", .str "a**"]

/-- Calls after which `old` is left out. -/
def oldCalls : List Call := [.setGlobs (.list [.str "*"]), .setGlobs oldGlobs]

theorem globsAfter_oldCalls (p : Path) :
    globsAfter oldGlobs oldCalls = oldGlobs ∧
      globsAfter oldGlobs (oldCalls ++ [.start p, .check p]) = oldGlobs := by
  have set : oldCalls.foldl Call.inForce oldGlobs = oldGlobs := by cbv
  exact ⟨set, by rw [globsAfter, List.foldl_append, set]; rfl⟩

/-- A walk of this disk goes on where it was, whatever was asked for in between. -/
theorem run_undisturbed_pairDisk :
    ∃ st, (fresh Scanner.smallScanner).run pairDisk oldCalls = st ∧
      (∃ anew, (Scanner.make oldGlobs (some "utf-8") 1 4).1 = .ok anew ∧
        (st.step pairDisk (.check ⟨"", "/", []⟩)).1 =
          .report (anew.check pairDisk ⟨"", "/", []⟩).1) ∧
      st.step pairDisk (.setGlobs strayGlobs) =
        (.globsSet (.error (.malformed ⟨"a**", .strayAnyPath⟩)), st, []) ∧
      ((st.run pairDisk (.start ⟨"", "/", []⟩ :: [.check ⟨"", "/", []⟩] ++
          [.next 0, .setGlobs strayGlobs, .start ⟨"", "/", []⟩, .next 1])).step pairDisk
        (.next 0)).1 = .file (.ok (some ⟨"b", .unreadable, []⟩)) := by
  have made : (Scanner.make oldGlobs (some "utf-8") 1 4).1 = .ok Scanner.smallScanner := by cbv
  have stray : Pattern.ofMember? (.str "a**") = .error (.malformed ⟨"a**", .strayAnyPath⟩) := by
    cbv
  have plain : ∃ pattern, Pattern.ofMember? (.str "*") = .ok pattern := ⟨_, by cbv⟩
  have good : ∀ glob ∈ [Value.str "*"], ∃ pattern, Pattern.ofMember? glob = .ok pattern := by
    simpa using plain
  have walks : ((fresh Scanner.smallScanner).run pairDisk oldCalls).walks.length = 0 := by cbv
  obtain ⟨check, refuse, give⟩ := run_undisturbed made
    (rfl : (fresh Scanner.smallScanner).run pairDisk oldCalls = _)
  simp only [(globsAfter_oldCalls ⟨"", "/", []⟩).1] at check
  have members : strayGlobs.members? = some ([.str "*"] ++ .str "a**" :: []) := rfl
  have refused : Pattern.compileCollection strayGlobs =
      .error (.malformed ⟨"a**", .strayAnyPath⟩) := compileCollection_malformed members good stray
  have calm : ∀ c ∈ [Call.next 0, .setGlobs strayGlobs, .start ⟨"", "/", []⟩, .next 1],
      ¬ c.Resets := by
    rintro c member ⟨globs, patterns, rfl, compiled⟩
    obtain rfl : globs = strayGlobs := by simpa using member
    rw [refused] at compiled
    cases compiled
  refine ⟨_, rfl, check _, refuse _ _ _ _ _ members good stray, ?_⟩
  rw [walks] at give
  exact give ⟨"", "/", []⟩ [.check ⟨"", "/", []⟩] _ _ _ (by simp [Call.asks]) calm
    (by rw [(globsAfter_oldCalls ⟨"", "/", []⟩).2]; exact made) check_pairDisk

end ScanSession

end TabAudit
