import Mathlib
import TabAudit.Command.Glob
import TabAudit.Proofs.Command.Exit
import TabAudit.Proofs.Console.Terminal
import TabAudit.Proofs.Terminal.Laws

/-!
# How the places of tabs are printed

A check prints a line for every tab in its report, in the order of the report. The line says the
path of the file and the line and the column of the tab, if the path is tame, no emoji has a name
between two colons of the line, and the line fits the page: among the numbers of lines, 100 and 1234
are such names.
-/

namespace TabAudit

open Terminal (EndsAlone Bracketless Tame)

/-! ## Lines -/

/-- What stands behind the path in the line about a tab. -/
def placeTail (p : Position) : List Char := ':' :: natDigits p.line ++ ':' :: natDigits p.column

/-- The line about a tab: the path of its file, and its line and column. -/
def placeText (path : String) (p : Position) : List Char := path.toList ++ placeTail p

/-- A text is cut at its last separator in one way only. -/
theorem append_cons_inj {sep : Char} {s s' t t' : List Char} (free : sep ∉ t) (free' : sep ∉ t')
    (h : s ++ sep :: t = s' ++ sep :: t') : s = s' ∧ t = t' := by
  rcases List.append_eq_append_iff.mp h with ⟨more, rfl, rest⟩ | ⟨more, rfl, rest⟩
  · cases more with
    | nil => simpa using rest
    | cons c more =>
      obtain ⟨-, rfl⟩ := List.cons_eq_cons.mp rest
      simp at free
  · cases more with
    | nil => simpa [eq_comm] using rest
    | cons c more =>
      obtain ⟨-, rfl⟩ := List.cons_eq_cons.mp rest
      simp at free'

/-- A line about a tab tells which it is about. -/
theorem placeText_injective {path path' : String} {p p' : Position}
    (h : placeText path p = placeText path' p') : path = path' ∧ p = p' := by
  have colon (n : Nat) : ':' ∉ natDigits n := notMem_natDigits rfl n
  simp only [placeText, placeTail, ← List.append_assoc] at h
  obtain ⟨front, column⟩ := append_cons_inj (colon _) (colon _) h
  obtain ⟨same, line⟩ := append_cons_inj (colon _) (colon _) front
  obtain ⟨line₁, column₁⟩ := p
  obtain ⟨line₂, column₂⟩ := p'
  obtain rfl : line₁ = line₂ := natDigits_injective line
  obtain rfl : column₁ = column₂ := natDigits_injective column
  exact ⟨String.toList_injective same, rfl⟩

theorem placeTail_free {c : Char} (other : c.isDigit = false) (colon : c ≠ ':') (p : Position) :
    c ∉ placeTail p := by
  simp [placeTail, colon, notMem_natDigits other]

theorem bracketless_placeTail (p : Position) : Bracketless (placeTail p) := by
  intro c member
  constructor
  · rintro rfl
    exact placeTail_free rfl (by decide) p member
  · rintro rfl
    exact placeTail_free rfl (by decide) p member

theorem colonNames_placeTail (p : Position) : colonNames (placeTail p) = [natDigits p.line] := by
  rw [placeTail, colonNames_name fun c member =>
    ⟨fun same => notMem_natDigits rfl _ (same ▸ member), isBlank_natDigits member⟩,
    colonNames_of_notMem (notMem_natDigits rfl _)]

/-- A text of lines tells which lines these are. -/
theorem lines_injective {lines lines' : List (List Char)}
    (free : ∀ line ∈ lines, '\n' ∉ line) (free' : ∀ line ∈ lines', '\n' ∉ line)
    (h : (lines.flatMap (· ++ ['\n'])) = lines'.flatMap (· ++ ['\n'])) : lines = lines' := by
  have cut (lines : List (List Char)) (free : ∀ line ∈ lines, '\n' ∉ line) :
      splitAtEach '\n' (lines.flatMap (· ++ ['\n'])) = lines ++ [[]] := by
    induction lines with
    | nil => rfl
    | cons line rest ih =>
      obtain ⟨first, others⟩ := List.forall_mem_cons.mp free
      rw [List.flatMap_cons, List.append_assoc, List.singleton_append, splitAtEach_append first,
        ih others, List.cons_append]
  exact List.append_cancel_right ((cut lines free).symm.trans (h ▸ cut lines' free'))

/-! ## What is printed of them -/

section

variable [Terminal]

open Terminal (Undrawn Fits Prints)

/-- Whether data in front of a tail is printed as it is, where it has no opening brackets: it does
not end in a single backslash, and no name in both is drawn. -/
def AsWritten (data tail : List Char) : Prop :=
  ¬ EndsAlone data ∧ ∀ name ∈ colonNames (data ++ tail), Terminal.emoji? name = none

/-- How a line is printed that has data in front of a tail: as it is written where nothing in it is
changed, and in data without opening brackets nothing else is. -/
structure Keeps (markup line data tail : List Char) : Prop where
  printed : Tame data → Undrawn (data ++ tail) → Fits line → Prints markup line
  printed_iff : '[' ∉ data → Fits (Terminal.shown markup) →
    (Prints markup line ↔ AsWritten data tail)

theorem locationText_eq (path : String) (p : Position) :
    locationText path p = [] ++ Terminal.escape path.toList ++ placeTail p := by
  simp [locationText, placeTail]

variable (laws : Terminal.Laws)

include laws

/-- The line about a tab keeps the path of its file. -/
theorem keeps_place (path : String) (p : Position) :
    Keeps (locationText path p) (placeText path p) path.toList (placeTail p) where
  printed tame undrawn fits := by
    refine laws.prints_of_shown ?_ fits
    rw [locationText_eq]
    exact laws.shown_escape [] _ _ (by simp) tame (bracketless_placeTail p)
      (placeTail_free rfl (by decide) p) undrawn
  printed_iff bracket fits := by
    have text : placeText path p = [] ++ path.toList ++ placeTail p := rfl
    rw [laws.prints_iff fits, locationText_eq, text]
    exact laws.shown_escape_iff (by simp) bracket (bracketless_placeTail p)

/-- Two lines are drawn. -/
theorem drawNames_placeTail_iff {p : Position} :
    drawNames Terminal.emoji? (placeTail p) = placeTail p ↔ p.line ≠ 100 ∧ p.line ≠ 1234 := by
  rw [drawNames_eq_self_iff laws.emoji_colonless, colonNames_placeTail, List.forall_mem_singleton]
  exact laws.emoji_digits p.line

variable {path : String} {p : Position} (colon : ':' ∉ path.toList)
  (backslash : '\\' ∉ path.toList)

include colon backslash

/-- A path that has neither colons nor backslashes is shown as it is. -/
theorem shown_locationText :
    Terminal.shown (locationText path p) =
      path.toList ++ drawNames Terminal.emoji? (placeTail p) := by
  have tame : Tame path.toList := by
    constructor
    · rintro ⟨front, whole, -⟩
      exact backslash (by simp [whole])
    · exact fun inside => backslash (inside.subset (by simp))
  rw [locationText_eq, List.nil_append]
  exact laws.shown_escape_colonless _ _ tame colon (bracketless_placeTail p)
    (placeTail_free rfl (by decide) p)

/-- The line about a tab in a file whose path has neither colons nor backslashes is printed as it
is, but for two lines. -/
theorem prints_line_iff (fits : Fits (Terminal.shown (locationText path p))) :
    Prints (locationText path p) (placeText path p) ↔ p.line ≠ 100 ∧ p.line ≠ 1234 := by
  rw [laws.prints_iff fits, shown_locationText laws colon backslash, placeText,
    List.append_cancel_left_eq, drawNames_placeTail_iff laws]

end

/-! ## Labels -/

/-- A label of some style in front of data. -/
structure Label where
  style : List Char
  text : List Char
  blanks : List Char

namespace Label

/-- A label with data behind it, as it is written. -/
def markup [Terminal] (l : Label) (data : List Char) : List Char :=
  '[' :: l.style ++ ']' :: l.text ++ '[' :: '/' :: l.style ++ ']' :: l.blanks ++
    Terminal.escape data

/-- A label with data behind it, as it should be shown. -/
def line (l : Label) (data : List Char) : List Char := l.text ++ (l.blanks ++ data)

/-- A label whose style is a word, with no brackets, backslashes or names in it. -/
structure Plain (l : Label) : Prop where
  named : l.style ≠ []
  letters : ∀ c ∈ l.style, 'a' ≤ c ∧ c ≤ 'z'
  free : Bracketless l.text
  backslash : '\\' ∉ l.text
  colons : l.text.count ':' ≤ 1
  blank : ∀ c ∈ l.blanks, c = ' '

/-- The label of a pattern. -/
def pattern : Label := ⟨['b', 'o', 'l', 'd'], ['P', 'a', 't', 't', 'e', 'r', 'n', ':'], [' ']⟩

/-- The label of a path, which tells whether a pattern accepts it. -/
def verdict : Bool → Label
  | true => ⟨['g', 'r', 'e', 'e', 'n'], ['m', 'a', 't', 'c', 'h'], List.replicate 5 ' '⟩
  | false => ⟨['d', 'i', 'm'], ['n', 'o', ' ', 'm', 'a', 't', 'c', 'h'], List.replicate 2 ' '⟩

theorem plain_pattern : pattern.Plain := by
  constructor <;> simp [pattern, Bracketless]

theorem plain_verdict (accepted : Bool) : (verdict accepted).Plain := by
  cases accepted <;> constructor <;> simp [verdict, Bracketless]

variable [Terminal] {l : Label} (laws : Terminal.Laws) (plain : l.Plain)

include laws plain

theorem shown_markup (data : List Char) :
    Terminal.shown (l.markup data) =
      l.text ++ Terminal.shown (l.blanks ++ Terminal.escape data) := by
  refine laws.shown_styled _ _ _ data plain.named plain.letters plain.free plain.backslash ?_
    plain.blank
  rintro name ⟨front, back, whole⟩
  -- A name needs two colons.
  have colons := plain.colons
  simp [← whole] at colons
  omega

/-- A label keeps the data behind it. -/
theorem keeps_markup (data : List Char) : Keeps (l.markup data) (l.line data) data [] where
  printed tame undrawn fits := by
    have literal := laws.shown_escape l.blanks data [] plain.blank tame (by simp [Bracketless])
      (by simp) undrawn
    simp only [List.append_nil] at literal
    refine laws.prints_of_shown ?_ fits
    rw [shown_markup laws plain, literal, line]
  printed_iff bracket fits := by
    have both := laws.shown_escape_iff (s := data) plain.blank bracket
      (show Bracketless [] by simp [Bracketless])
    simp only [List.append_nil] at both
    rw [laws.prints_iff fits, shown_markup laws plain, line, List.append_cancel_left_eq, both,
      AsWritten, List.append_nil]

end Label

namespace Pattern

variable [Terminal]

theorem heading_eq (p : Pattern) : p.heading = Label.pattern.markup p.text.toList := by
  have label : "[bold]Pattern:[/bold] ".toList =
      '[' :: Label.pattern.style ++ ']' :: Label.pattern.text ++
        '[' :: '/' :: Label.pattern.style ++ ']' :: Label.pattern.blanks := by simp [Label.pattern]
  unfold heading Label.markup
  rw [label]

theorem verdictText_eq (p : Pattern) (path : String) :
    p.verdictText path = (Label.verdict (p.accepts path)).markup path.toList := by
  have label (accepted : Bool) :
      (if accepted then "[green]match[/green]     " else "[dim]no match[/dim]  ").toList =
        '[' :: (Label.verdict accepted).style ++ ']' :: (Label.verdict accepted).text ++
          '[' :: '/' :: (Label.verdict accepted).style ++
            ']' :: (Label.verdict accepted).blanks := by
    cases accepted <;> simp [Label.verdict]
  unfold verdictText Label.markup
  rw [label]

end Pattern

/-! ## Commands -/

/-- What is left of a command that prints pieces: it comes to its end once all of them are printed,
and breaks off at one that cannot be. -/
inductive CommandOutcome.Wrote [Terminal] (o : CommandOutcome) (pieces : List (List Char))
    (foundTabs : Bool) : Prop
  | all (printed : o.printed = pieces.flatten) (ending : o.ending = .finished foundTabs)
  | part {front back : List (List Char)} {piece : List Char} {fault : LibraryFault}
    (cut : pieces = front ++ piece :: back)
    (failed : Terminal.outputFault? front.flatten piece = some fault)
    (printed : o.printed = front.flatten) (ending : o.ending = .surprise (.print fault))

theorem CommandOutcome.wrote_print [Terminal] (log : Log) (foundTabs : Bool)
    (pieces : List (List Char)) :
    (CommandOutcome.print log foundTabs pieces).Wrote pieces foundTabs := by
  unfold CommandOutcome.print
  rcases Terminal.write_cases [] pieces with
    whole | ⟨front, piece, back, fault, rfl, failed, broken⟩
  · rw [whole]
    exact .all rfl rfl
  · rw [broken]
    exact .part rfl failed rfl rfl

namespace ScanReport

variable [Terminal]

/-- The tabs of a report, in its order, with the paths of their files. -/
def places (r : ScanReport) : List (String × Position) :=
  r.files.flatMap fun file => file.tabs.map (file.path, ·)

/-- The lines of a report are those about its tabs, if its files have a status that tells of them.
-/
theorem locationLines_eq {r : ScanReport} (told : ∀ file ∈ r.files, file.Told) :
    r.locationLines = r.places.map fun v => Terminal.printed (locationText v.1 v.2) := by
  obtain ⟨root, files, excluded⟩ := r
  unfold locationLines filesWithTabs places
  induction files with
  | nil => rfl
  | cons file rest ih =>
    obtain ⟨tells, told⟩ := List.forall_mem_cons.mp told
    rw [List.flatMap_cons, List.map_append, ← ih told, List.map_map]
    by_cases status : file.status = .tabsFound
    · rw [List.filter_cons_of_pos (by simpa using status), List.flatMap_cons]
      rfl
    · have none : file.tabs = [] := by simpa using mt tells.mpr status
      rw [List.filter_cons_of_neg (by simpa using status), none]
      rfl

/-- Reports whose lines are printed as they are, and whose paths have no line ends, tell their tabs
by these lines. -/
theorem places_eq_of_lines {r r' : ScanReport} (told : ∀ file ∈ r.files, file.Told)
    (told' : ∀ file ∈ r'.files, file.Told)
    (whole : ∀ v ∈ r.places ++ r'.places,
      '\n' ∉ v.1.toList ∧ Terminal.Prints (locationText v.1 v.2) (placeText v.1 v.2))
    (h : r.locationLines.flatten = r'.locationLines.flatten) : r.places = r'.places := by
  have lines (r : ScanReport) (told : ∀ file ∈ r.files, file.Told)
      (whole : ∀ v ∈ r.places, Terminal.Prints (locationText v.1 v.2) (placeText v.1 v.2)) :
      r.locationLines.flatten =
        (r.places.map fun v => placeText v.1 v.2).flatMap (· ++ ['\n']) := by
    rw [locationLines_eq told, List.flatMap_map, List.flatMap_def]
    exact congrArg List.flatten (List.map_congr_left whole)
  obtain ⟨first, second⟩ := List.forall_mem_append.mp whole
  have free (v : String × Position) (none : '\n' ∉ v.1.toList) : '\n' ∉ placeText v.1 v.2 :=
    List.not_mem_append none (placeTail_free rfl (by decide) v.2)
  rw [lines r told fun v member => (first v member).2,
    lines r' told' fun v member => (second v member).2] at h
  -- The text tells its lines, and each line its place.
  refine List.map_injective_iff.mpr (fun v w same => ?_) (lines_injective ?_ ?_ h)
  · obtain ⟨path, place⟩ := placeText_injective same
    exact Prod.ext path place
  · exact List.forall_mem_map.mpr fun v member => free v (first v member).1
  · exact List.forall_mem_map.mpr fun v member => free v (second v member).1

end ScanReport

/-- Records are shown in a format with nothing wrong. -/
theorem LogView.show?_of_fault? {view : LogView} (sound : LogFormat.fault? view.format = none)
    (log : Log) : ∃ shown, view.show? log = (shown, none) := by
  rcases outcome : view.show? log with ⟨shown, _ | fault⟩
  · exact ⟨shown, rfl⟩
  · rw [LogView.fault?_of_show? outcome] at sound
    cases sound

theorem wrote_runGlob [Terminal] {glob : String} {p : Pattern}
    (compiled : (Pattern.tryCompile glob).outcome = .ok p) (paths : List String) :
    (runGlob glob paths).Wrote (p.lines paths) false := by
  rw [runGlob, compiled]
  exact CommandOutcome.wrote_print _ _ _

namespace CheckRequest

variable [Runtime] [Terminal] {r : CheckRequest} {d : Disk} {env : Environment} {s : Settings}
variable {scanner : Scanner} {report : ScanReport}

/-- A check whose log is set up prints the report that it comes to. -/
theorem Reports.run (reports : r.Reports d env s scanner report) (log : s.logging.Usable) :
    (r.run d env).Wrote report.pieces report.hasTabs := by
  obtain ⟨view, made, sound⟩ := LogSettings.usable_iff.mp log
  have shows := LogView.show?_of_fault? sound
  have settings := told_iff.mpr reports.told
  have root := Disk.rootFault?_eq_none_iff.mpr reports.root
  rcases ready : s.scan.scanner with ⟨outcome, before⟩
  obtain rfl : outcome = .ok scanner := (congrArg Prod.fst ready).symm.trans reports.made
  rcases scanned : scanner.check d (Path.read r.path) with ⟨result, records⟩
  obtain rfl : result = .ok report := (congrArg Prod.fst scanned).symm.trans reports.scanned
  obtain ⟨shown, first⟩ := shows before
  obtain ⟨shown', second⟩ := shows records
  simp only [CheckRequest.run, settings, made, ScanSettings.check, root, ready, first,
    Scanner.report, scanned, second]
  exact CommandOutcome.wrote_print _ _ _

end CheckRequest

/-! ## Both commands -/

/-- A check whose log is set up prints a line for each tab in its report, in the order of the
report, and then the summary, unless one of these cannot be printed. A line keeps the path; where
that has neither colons nor backslashes, it is printed as it is just if the number of the line is
neither 100 nor 1234. Lines that are printed as they are tell their tabs. The other command prints
its pattern and each path in the same way. -/
theorem CheckRequest.run_prints_places [Runtime] [Terminal] (laws : Terminal.Laws)
    {r : CheckRequest} {d : Disk} {env : Environment} {s : Settings} {scanner : Scanner}
    {report : ScanReport} (reports : r.Reports d env s scanner report)
    (log : s.logging.Usable) :
    (r.run d env).Wrote report.pieces report.hasTabs ∧
      report.pieces =
        (report.places.map fun (path, p) => Terminal.printed (locationText path p)) ++
          [Terminal.panel report.summary] ∧
      (∀ path p, (path, p) ∈ report.places →
        Keeps (locationText path p) (placeText path p) path.toList (placeTail p) ∧
        (':' ∉ path.toList → '\\' ∉ path.toList →
          Terminal.Fits (Terminal.shown (locationText path p)) →
          (Terminal.Prints (locationText path p) (placeText path p) ↔
            p.line ≠ 100 ∧ p.line ≠ 1234))) ∧
      (∀ path p path' p', placeText path p = placeText path' p' → path = path' ∧ p = p') ∧
      (∀ report' : ScanReport, (∀ file ∈ report'.files, file.Told) →
        (∀ v ∈ report.places ++ report'.places,
          '\n' ∉ v.1.toList ∧ Terminal.Prints (locationText v.1 v.2) (placeText v.1 v.2)) →
        report.locationLines.flatten = report'.locationLines.flatten →
        report.places = report'.places) ∧
      ∀ (glob : String) (p : Pattern) (paths : List String),
        (Pattern.tryCompile glob).outcome = .ok p →
        (runGlob glob paths).Wrote (p.lines paths) false ∧
          Keeps p.heading (Label.pattern.line p.text.toList) p.text.toList [] ∧
          ∀ path ∈ paths,
            Keeps (p.verdictText path) ((Label.verdict (p.accepts path)).line path.toList)
              path.toList [] := by
  have told := Scanner.told_check reports.scanned
  refine ⟨reports.run log, ?_,
    fun path p _ => ⟨keeps_place laws path p, fun colon backslash fits =>
      prints_line_iff laws colon backslash fits⟩,
    fun path p path' p' => placeText_injective,
    fun report' told' whole => ScanReport.places_eq_of_lines told told' whole,
    fun glob p paths compiled => ⟨wrote_runGlob compiled paths, ?_, fun path _ => ?_⟩⟩
  · rw [ScanReport.pieces, ScanReport.locationLines_eq told]
  · rw [p.heading_eq]
    exact Label.keeps_markup laws Label.plain_pattern p.text.toList
  · rw [p.verdictText_eq]
    exact Label.keeps_markup laws (Label.plain_verdict _) path.toList

namespace CheckRequest

/-! ### A file with tabs in its lines 1 and 100 -/

attribute [local instance] Yaml.runtime Console.usual

/-- A disk with nothing but a file `a`. -/
def loneDisk (content : List UInt8) : Disk := ⟨(Node.file content .sound).only ["a"], [], ""⟩

theorem reports_loneDisk {content : List UInt8} {tabs : List Position}
    (checked : (plainScanner.checker.check (Node.source content .sound)).1 = .ok tabs) :
    ∃ report : ScanReport,
      plainRequest.Reports (loneDisk content) nothingLeftOut plainSettings plainScanner report ∧
        report.places = tabs.map ("a", ·) := by
  have settings : plainRequest.settings (loneDisk content) nothingLeftOut = .ok plainSettings := by
    rw [settings_eq]
    rfl
  have included : plainScanner.Includes [] (loneDisk content).root ["a"] :=
    Scanner.includes_cons.mpr
      ⟨_, _, rfl, rfl, ⟨rfl, by cbv⟩, Scanner.reaches_nil, _, _, rfl, rfl, by cbv⟩
  have node : (plainScanner.checker.checkNode "/a" (.file content .sound)).1 = .ok tabs := by
    rw [Checker.checkNode_opened (by simp), checked]
    rfl
  have alone : Scanner.listing (loneDisk content) [] (loneDisk content).root =
      .ok [("a", .file content .sound)] := by cbv
  obtain ⟨report, scanned, files⟩ :=
    Scanner.check_only included rfl (Node.named_only (by decide)) (by simp)
      (Checker.checkFile_of_ok node "a")
      (show Disk.resolve (loneDisk content) (Path.read plainRequest.path) = .ok [] by cbv)
      (show Disk.findNames _ [] = .ok ⟨[], (loneDisk content).root⟩ by cbv) rfl
      (Scanner.listed_single alone)
  refine ⟨report, ⟨told_iff.mp settings, ⟨⟨LogLevel.info.rank, "%(message)s"⟩, by cbv⟩,
    Disk.rootFault?_eq_none_iff.mp (by cbv), by cbv, scanned⟩, ?_⟩
  rw [ScanReport.places, files, List.flatMap_singleton]

theorem usable_plainSettings : plainSettings.logging.Usable :=
  LogSettings.usable_iff.mpr
    ⟨⟨LogLevel.info.rank, "%(message)s"⟩, by cbv, LogFormat.fault?_message⟩

/-- A tab in line 1, and one in line 100. -/
def hundredLines : List UInt8 := 9 :: (List.replicate 99 10 ++ [9])

theorem check_hundredLines :
    (plainScanner.checker.check (Node.source hundredLines .sound)).1 =
      .ok [⟨1, 1⟩, ⟨100, 1⟩] := by
  refine (Checker.check_file_ok_iff (c := plainScanner.checker) Encoding.utf8.chunkInvariant
    (by decide) (by decide) rfl _ _).mpr
    ⟨fun k run => ?_, '\t' :: (List.replicate 99 '\n' ++ ['\t']), by cbv, by decide⟩
  have zero : (0 : UInt8) ∈ hundredLines := List.mem_of_getElem? (run 0 (by decide))
  simp [hundredLines] at zero

theorem shown_first : Terminal.shown (locationText "a" ⟨1, 1⟩) = ['a', ':', '1', ':', '1'] := by
  rw [shown_locationText (Console.laws 80) (by decide) (by decide),
    (drawNames_placeTail_iff (Console.laws 80)).mpr (by decide)]
  cbv

theorem shown_hundredth : Terminal.shown (locationText "a" ⟨100, 1⟩) = ['a', '💯', '1'] := by
  rw [shown_locationText (Console.laws 80) (by decide) (by decide)]
  cbv

theorem fits_first : Terminal.Fits (Terminal.shown (locationText "a" ⟨1, 1⟩)) := by
  rw [shown_first]
  exact Console.fits_of_short (by simp) (by decide)

theorem fits_hundredth : Terminal.Fits (Terminal.shown (locationText "a" ⟨100, 1⟩)) := by
  rw [shown_hundredth]
  exact Console.fits_of_short (by simp) (by decide)

/-- The tab in line 1 is printed as it is. -/
theorem run_prints_first : ∃ report : ScanReport,
    plainRequest.Reports (loneDisk hundredLines) nothingLeftOut plainSettings plainScanner report ∧
      plainSettings.logging.Usable ∧ ("a", ⟨1, 1⟩) ∈ report.places ∧
      Terminal.Prints (locationText "a" ⟨1, 1⟩) (placeText "a" ⟨1, 1⟩) := by
  obtain ⟨report, reports, places⟩ := reports_loneDisk check_hundredLines
  have member : ("a", (⟨1, 1⟩ : Position)) ∈ report.places := by
    rw [places]
    exact List.mem_cons_self
  obtain ⟨-, -, lines, -⟩ := run_prints_places (Console.laws 80) reports usable_plainSettings
  exact ⟨report, reports, usable_plainSettings, member,
    ((lines "a" ⟨1, 1⟩ member).2 (by decide) (by decide) fits_first).mpr (by decide)⟩

/-- The tab in line 100 is not: the number of its line is drawn. -/
theorem run_draws_hundred : ∃ report : ScanReport,
    plainRequest.Reports (loneDisk hundredLines) nothingLeftOut plainSettings plainScanner report ∧
      report.places = [("a", ⟨1, 1⟩), ("a", ⟨100, 1⟩)] ∧
      (plainRequest.run (loneDisk hundredLines) nothingLeftOut).printed =
        ['a', ':', '1', ':', '1', '\n', 'a', '💯', '1', '\n'] ++
          Terminal.panel report.summary ∧
      ¬ Terminal.Prints (locationText "a" ⟨100, 1⟩) (placeText "a" ⟨100, 1⟩) := by
  obtain ⟨report, reports, places⟩ := reports_loneDisk check_hundredLines
  have laws := Console.laws 80
  have line (v : String × Position) (fits : Terminal.Fits (Terminal.shown (locationText v.1 v.2))) :
      Terminal.printed (locationText v.1 v.2) =
        Terminal.shown (locationText v.1 v.2) ++ ['\n'] := laws.page_of_fits _ fits
  refine ⟨report, reports, places, ?_, ?_⟩
  · cases reports.run usable_plainSettings with
    | all printed =>
      rw [printed, ScanReport.pieces,
        ScanReport.locationLines_eq (Scanner.told_check reports.scanned), places]
      simp [line ("a", ⟨1, 1⟩) fits_first, line ("a", ⟨100, 1⟩) fits_hundredth, shown_first,
        shown_hundredth]
    | part cut failed => cases failed
  · have expected : placeText "a" ⟨100, 1⟩ = "a:100:1".toList := by cbv
    rw [laws.prints_iff fits_hundredth, shown_hundredth, expected]
    decide

end CheckRequest

end TabAudit
