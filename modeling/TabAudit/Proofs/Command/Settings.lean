import TabAudit.Command.Check
import TabAudit.Proofs.Glob.Acceptance

/-!
# Settings that a check can use

There is a scanner just for settings whose globs, encoding and sizes can be used. What is wrong with
settings is wrong with those of a file, or is a variable of the environment that should be a
numeral.
-/

namespace TabAudit

/-! ## Globs -/

theorem Text.chars_of_chars? {t : Text} {cs : List Char} (h : t.chars? = some cs) :
    t.chars = cs := by
  obtain ⟨points⟩ := t
  unfold Text.chars? at h
  unfold Text.chars
  induction points generalizing cs with
  | nil =>
    cases h
    rfl
  | cons p rest ih =>
    cases p with
    | half n => simp [CodePoint.char?] at h
    | char c =>
      simp only [List.mapM_cons, CodePoint.char?, Option.pure_def, Option.bind_eq_bind,
        Option.bind_some, Option.bind_eq_some_iff, Option.some.injEq] at h
      obtain ⟨tail, read, rfl⟩ := h
      rw [List.map_cons, ih read, CodePoint.toChar]

theorem Text.chars_of_string? {t : Text} {s : String} (h : t.string? = some s) :
    t.chars = s.toList := by
  obtain ⟨cs, read, rfl⟩ := Option.map_eq_some_iff.mp h
  rw [Text.chars_of_chars? read, String.toList_ofList]

/-- Whether a text is a glob that can be used. -/
def Text.IsGlob (t : Text) : Prop :=
  ¬ Glob.Stray true (Glob.marks false t.chars) ∧ ¬ Glob.Dangles (Glob.marks false t.chars)

section

variable [Runtime]

namespace Pattern

theorem exists_ofMember?_eq_ok_iff {t : Text} :
    (∃ p, ofMember? (.str t) = .ok p) ↔ t.IsGlob := by
  unfold Text.IsGlob
  rw [← Glob.firstFault_tokens_eq_none]
  cases whole : t.string? with
  | some glob =>
    rw [Text.chars_of_string? whole, ← exists_compile_eq_ok_iff]
    simp only [ofMember?, ofText?, whole]
    cases compile glob <;> simp [Except.map, Except.mapError]
  | none =>
    -- Only paths that are no part of the model have such a glob, but it has to be well formed.
    simp only [ofMember?, ofText?, whole]
    cases Glob.firstFault true (Glob.tokens t.chars) <;> simp [Except.mapError]

theorem exists_ofMembers_eq_ok_iff {globs : List Text} :
    (∃ ps, ofMembers (globs.map .str) = .ok ps) ↔ ∀ t ∈ globs, t.IsGlob := by
  induction globs with
  | nil => simp [ofMembers]
  | cons t rest ih =>
    rw [List.forall_mem_cons, ← exists_ofMember?_eq_ok_iff, ← ih, List.map_cons, ofMembers]
    cases ofMember? (.str t) with
    | error e => simp
    | ok p => cases ofMembers (rest.map .str) <;> simp

end Pattern

/-! ## Scanners -/

/-- Whether a text is the name of an encoding. -/
def Text.IsEncoding (t : Text) : Prop :=
  ∃ name encoding, t.string? = some name ∧ Charset.find name = .ok encoding

/-- The checker for settings, and when there is one. -/
theorem Checker.make_eq_ok_iff {name : Text} {threshold bufferSize : Int} {c : Checker} :
    make name threshold bufferSize = .ok c ↔
      1 ≤ threshold ∧ 1 ≤ bufferSize ∧ ∃ text encoding, name.string? = some text ∧
        Charset.find text = .ok encoding ∧ c = ⟨text, encoding, threshold, bufferSize⟩ := by
  unfold make
  cases name.string? with
  | none => simp
  | some text =>
    simp only [Option.some.injEq, exists_and_left, exists_eq_left']
    cases Charset.find text with
    | error fault => cases fault <;> simp
    | ok encoding =>
      by_cases small : threshold < 1
      · simp [small]
      by_cases little : bufferSize < 1
      · simp [small, little]
      simp [small, little, Int.not_lt.mp small, Int.not_lt.mp little, eq_comm]

/-- Whether there is a scanner for settings. -/
structure ScanSettings.Usable (s : ScanSettings) : Prop where
  globs : ∀ t ∈ s.excludeGlobs, t.IsGlob
  encoding : (s.encoding.getD Scanner.platformEncoding).IsEncoding
  sizes : s.Valid

namespace ScanSettings

variable {s : ScanSettings} {scanner : Scanner}

/-- No globs are as good as an empty list of them. -/
theorem compileCollection_globs (globs : List Text) :
    Pattern.compileCollection
        (if (Value.list (globs.map .str)).isTruthy then .list (globs.map .str) else .list []) =
      Pattern.ofMembers (globs.map .str) := by
  cases globs <;> rfl

theorem scanner_eq_ok_iff :
    s.scanner.1 = .ok scanner ↔
      Checker.make (s.encoding.getD Scanner.platformEncoding) s.nulRunThreshold s.bufferSize =
          .ok scanner.checker ∧
        Pattern.ofMembers (s.excludeGlobs.map .str) = .ok scanner.patterns := by
  obtain ⟨checker, patterns⟩ := scanner
  unfold ScanSettings.scanner Scanner.make
  rw [compileCollection_globs]
  cases Checker.make (s.encoding.getD Scanner.platformEncoding) s.nulRunThreshold s.bufferSize with
  | error fault => simp
  | ok checker => cases Pattern.ofMembers (s.excludeGlobs.map .str) <;> simp

theorem exists_scanner_eq_ok_iff : (∃ scanner, s.scanner.1 = .ok scanner) ↔ s.Usable := by
  constructor
  · rintro ⟨scanner, made⟩
    obtain ⟨checker, patterns⟩ := scanner_eq_ok_iff.mp made
    obtain ⟨threshold, size, text, encoding, name, known, -⟩ := Checker.make_eq_ok_iff.mp checker
    exact ⟨Pattern.exists_ofMembers_eq_ok_iff.mp ⟨_, patterns⟩, ⟨text, encoding, name, known⟩,
      threshold, size⟩
  · rintro ⟨globs, ⟨text, encoding, name, known⟩, threshold, size⟩
    obtain ⟨patterns, compiled⟩ := Pattern.exists_ofMembers_eq_ok_iff.mpr globs
    exact ⟨⟨_, patterns⟩, scanner_eq_ok_iff.mpr ⟨Checker.make_eq_ok_iff.mpr
      ⟨threshold, size, text, encoding, name, known, rfl⟩, compiled⟩⟩

end ScanSettings

/-! ## Where settings come from -/

/-- The settings that an environment counts over. -/
def Settings.before (d : Disk) (config : Option String) : Except ConfigError Settings :=
  match config with
  | none => .ok .builtIn
  | some path => (Settings.ofFile d .builtIn (Path.read path)).1

theorem Settings.ofValue_builtIn :
    Settings.ofValue .builtIn (.dict []) = (.ok .builtIn, []) := rfl

theorem CheckRequest.settings_eq (r : CheckRequest) (d : Disk) (env : Environment) :
    r.settings d env =
      match Settings.before d r.config with
      | .error e => .error e
      | .ok s =>
        match s.override env with
        | (_, some e) => .error (.variable e)
        | (s, none) => .ok (s.extend r) := by
  unfold settings Settings.load Settings.before
  cases r.config with
  | none =>
    simp only [Option.map_none, Settings.ofValue_builtIn]
    rcases Settings.override .builtIn env with ⟨s, _ | e⟩ <;> rfl
  | some path =>
    simp only [Option.map_some]
    rcases Settings.ofFile d .builtIn (Path.read path) with ⟨e | s, log⟩
    · rfl
    · simp only
      rcases s.override env with ⟨s, _ | e⟩ <;> rfl

end

/-! ## A file whose fault is not expected -/

end TabAudit
