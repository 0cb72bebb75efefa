import Mathlib
import TabAudit.Proofs.Command.Settings
import TabAudit.Proofs.Config.Validity
import TabAudit.Proofs.Text.Pieces

/-!
# Which source a setting comes from

The command line, the environment and a file each name some of the settings, and the built-in ones
stand under all of them. Each setting is as the first of these says that names it, and no other
source has a say in it. Only the globs of the command line are of another kind: they come behind
those that the other sources give.
-/

namespace TabAudit

/-- What one source says: for each setting that it names, what that is to be. -/
structure Layer where
  excludeGlobs : Option (List Text)
  encoding : Option (Option Text)
  nulRunThreshold : Option Int
  bufferSize : Option Int
  level : Option Value
  format : Option Value

namespace Layer

/-- The settings that some layers come to over others, the first layer on top. -/
def settings (layers : List Layer) (base : Settings) : Settings where
  scan :=
    { excludeGlobs := (layers.findSome? excludeGlobs).getD base.scan.excludeGlobs
      encoding := (layers.findSome? encoding).getD base.scan.encoding
      nulRunThreshold := (layers.findSome? nulRunThreshold).getD base.scan.nulRunThreshold
      bufferSize := (layers.findSome? bufferSize).getD base.scan.bufferSize }
  logging :=
    { level := (layers.findSome? level).getD base.logging.level
      format := (layers.findSome? format).getD base.logging.format }

theorem getD_findSome?_cons {α : Type} (field : Layer → Option α) (l : Layer) (rest : List Layer)
    (base : α) :
    ((l :: rest).findSome? field).getD base =
      (field l).getD ((rest.findSome? field).getD base) := by
  cases h : field l <;> simp [h]

theorem settings_singleton (l : Layer) (base : Settings) :
    settings [l] base =
      { scan :=
          { excludeGlobs := l.excludeGlobs.getD base.scan.excludeGlobs
            encoding := l.encoding.getD base.scan.encoding
            nulRunThreshold := l.nulRunThreshold.getD base.scan.nulRunThreshold
            bufferSize := l.bufferSize.getD base.scan.bufferSize }
        logging :=
          { level := l.level.getD base.logging.level
            format := l.format.getD base.logging.format } } := by
  simp only [settings, getD_findSome?_cons, List.findSome?_nil, Option.getD_none]

/-- A layer on top of others has a say over what they come to. -/
theorem settings_cons (l : Layer) (rest : List Layer) (base : Settings) :
    settings (l :: rest) base = settings [l] (settings rest base) := by
  simp only [settings, getD_findSome?_cons, List.findSome?_nil, Option.getD_none]

end Layer

/-! ## Lists between commas -/

/-- Whether items are those of a list between commas: what stands between these, without the blanks
around it, unless there is nothing else. -/
def CommaList (text : String) (items : List Text) : Prop :=
  ∃ pieces : List (List Char), pieces ≠ [] ∧ (∀ piece ∈ pieces, ',' ∉ piece) ∧
    text.toList = joinWith ',' pieces ∧
    items = ((pieces.map trimBlanks).filter (· ≠ [])).map .ofChars

theorem commaList_iff {text : String} {items : List Text} :
    CommaList text items ↔ items = (commaItems text).map .ofString := by
  have same (pieces : List (List Char)) :
      (pieces.map String.ofList).map Text.ofString = pieces.map .ofChars := by
    rw [List.map_map]
    exact List.map_congr_left fun piece _ => congrArg Text.ofChars String.toList_ofList
  unfold commaItems
  rw [same]
  constructor
  · rintro ⟨pieces, some_, free, whole, rfl⟩
    rw [whole, splitAtEach_joinWith some_ free]
  · rintro rfl
    exact ⟨_, splitAtEach_ne_nil _ _, fun piece member => (mem_splitAtEach member).1,
      (joinWith_splitAtEach _ _).symm, rfl⟩

/-! ## The sections of a file -/

theorem Section.firstStranger?_eq_none_iff {part : Section} {pairs : List (Value × Value)}
    (texts : ∀ e ∈ pairs, e.1.isStr = true) :
    part.firstStranger? pairs = none ↔ ∀ e ∈ pairs, ∃ key ∈ part.fields, e.1 = .str key := by
  induction pairs with
  | nil => simp [firstStranger?]
  | cons e rest ih =>
    obtain ⟨text, others⟩ := List.forall_mem_cons.mp texts
    obtain ⟨k, v⟩ := e
    cases k with
    | str key =>
      have own : Text.ofString reservedKey ∉ part.fields.map Text.ofString := by
        cases part <;> decide
      have named : Text.ofString reservedKey ≠ key ∧
            (part.fields.map Text.ofString).contains key = true ↔
          ∃ k ∈ part.fields, Value.str key = .str k := by
        rw [List.contains_iff_mem, List.mem_map]
        constructor
        · rintro ⟨-, k, member, rfl⟩
          exact ⟨k, member, rfl⟩
        · rintro ⟨k, member, same⟩
          obtain rfl := Value.str.inj same
          exact ⟨fun same => own (same ▸ List.mem_map_of_mem member), k, member, rfl⟩
      rw [List.forall_mem_cons, ← ih others, ← named, firstStranger?]
      by_cases reserved : key = Text.ofString reservedKey
      · rw [if_pos reserved]
        exact iff_of_false (by simp) fun given => given.1.1 reserved.symm
      rw [if_neg reserved]
      by_cases known : (part.fields.map Text.ofString).contains key = true
      · rw [if_pos known]
        exact ⟨fun later => ⟨⟨Ne.symm reserved, known⟩, later⟩, fun given => given.2⟩
      · rw [if_neg known]
        exact iff_of_false (by simp) fun given => known given.1.2
    | _ => cases text

/-- The pairs of a section's value are those of a mapping from its own keys. -/
theorem Section.pairs_eq_ok_iff {part : Section} {v : Value} {pairs : List (Value × Value)} :
    part.pairs v = .ok pairs ↔
      v.opened = .dict pairs ∧ ∀ e ∈ pairs, ∃ key ∈ part.fields, e.1 = .str key := by
  unfold Section.pairs
  split
  · rename_i given opened
    constructor
    · intro h
      split at h
      · cases h
      rename_i texts
      split at h
      · cases h
      rename_i known
      cases h
      refine ⟨opened, (firstStranger?_eq_none_iff fun e member => ?_).mp known⟩
      simpa using mt (List.any_eq_true.mpr ⟨e, member, ·⟩) texts
    · rintro ⟨mapping, named⟩
      cases opened.symm.trans mapping
      have texts : ∀ e ∈ pairs, e.1.isStr = true := fun e member => by
        obtain ⟨key, -, key_⟩ := named e member
        rw [key_, Value.isStr]
      rw [if_neg (by simpa using fun k v member => texts (k, v) member),
        (firstStranger?_eq_none_iff texts).mpr named]
  · rename_i other
    refine iff_of_false (by simp) fun ⟨mapping, _⟩ => other pairs mapping

/-- The pairs that a value has for a section: none at all, unless it is a mapping with the section's
key, and then those of a mapping from names of the section's fields. -/
inductive Section.Holds (part : Section) (v : Value) : List (Value × Value) → Prop
  | absent (none : part.find? v = .ok none) : Holds part v []
  | present {top pairs : List (Value × Value)} {inner : Value} (mapping : v.opened = .dict top)
      (found : Value.find? (.str part.key) top = some inner) (opened : inner.opened = .dict pairs)
      (named : ∀ e ∈ pairs, ∃ key ∈ part.fields, e.1 = .str key) : Holds part v pairs

/-- Something is found under a key in a mapping alone. -/
theorem Section.find?_eq_some_iff {part : Section} {v inner : Value} :
    part.find? v = .ok (some inner) ↔
      ∃ top, v.opened = .dict top ∧ Value.find? (.str part.key) top = some inner := by
  have nothing (c : Bool) (fault : SectionFault) :
      (if c then .error fault else .ok none : Except SectionFault (Option Value)) ≠
        .ok (some inner) := by
    cases c <;> simp
  unfold Section.find?
  cases v.opened with
  | dict top => simp
  | list items => exact iff_of_false (nothing _ _) (by simp)
  | tuple items => exact iff_of_false (nothing _ _) (by simp)
  | set items => exact iff_of_false (nothing _ _) (by simp)
  | str s => exact iff_of_false (nothing _ _) (by simp)
  | _ => simp

namespace Layer

/-- What the pairs of both sections come to as a layer. -/
structure Reads (scan logging : List (Value × Value)) (l : Layer) : Prop where
  excludeGlobs : Option.Rel Value.GivesGlobs (Value.find? (.str "exclude_globs") scan)
    l.excludeGlobs
  encoding : Option.Rel Value.GivesEncoding (Value.find? (.str "encoding") scan) l.encoding
  nulRunThreshold : Option.Rel Value.GivesSize (Value.find? (.str "nul_run_threshold") scan)
    l.nulRunThreshold
  bufferSize : Option.Rel Value.GivesSize (Value.find? (.str "buffer_size") scan) l.bufferSize
  level : l.level = Value.find? (.str "level") logging
  format : l.format = Value.find? (.str "format") logging

end Layer

/-- What a value says is what its sections have for their fields. -/
def Value.Says (v : Value) (l : Layer) : Prop :=
  ∃ scan logging, Section.scan.Holds v scan ∧ Section.logging.Holds v logging ∧
    l.Reads scan logging

theorem readField_eq_ok_iff {α : Type} {pairs : List (Value × Value)} {key : String}
    {read : Value → Except FieldFault α} {Gives : Value → α → Prop} {old new : α}
    (given : ∀ v a, read v = .ok a ↔ Gives v a) :
    readField pairs key read old = .ok new ↔
      ∃ said, Option.Rel Gives (Value.find? (.str key) pairs) said ∧ new = said.getD old := by
  unfold readField
  cases Value.find? (.str key) pairs with
  | none =>
    constructor
    · rintro ⟨⟩
      exact ⟨none, .none, rfl⟩
    · rintro ⟨_, ⟨⟩, rfl⟩
      rfl
  | some v =>
    constructor
    · intro h
      exact ⟨some new, .some ((given v new).mp h), rfl⟩
    · rintro ⟨_, ⟨h⟩, rfl⟩
      exact (given v _).mpr h

section

variable [Runtime]

theorem ScanSettings.replace_eq_ok_iff {s t : ScanSettings} {pairs : List (Value × Value)} :
    s.replace pairs = .ok t ↔
      readField pairs "exclude_globs" readGlobs s.excludeGlobs = .ok t.excludeGlobs ∧
      readField pairs "encoding" readEncoding s.encoding = .ok t.encoding ∧
      readField pairs "nul_run_threshold" (readSize .nulRunThreshold) s.nulRunThreshold =
        .ok t.nulRunThreshold ∧
      readField pairs "buffer_size" (readSize .bufferSize) s.bufferSize = .ok t.bufferSize := by
  unfold ScanSettings.replace
  cases readField pairs "exclude_globs" readGlobs s.excludeGlobs with
  | error e => simp
  | ok globs =>
    cases readField pairs "encoding" readEncoding s.encoding with
    | error e => simp
    | ok encoding =>
      cases readField pairs "nul_run_threshold" (readSize .nulRunThreshold)
          s.nulRunThreshold with
      | error e => simp
      | ok threshold =>
        cases readField pairs "buffer_size" (readSize .bufferSize) s.bufferSize with
        | error e => simp
        | ok size =>
          obtain ⟨_, _, _, _⟩ := t
          simp

end

/-- A section that is not there changes nothing, and one that is there has pairs to go on with. -/
theorem Section.change_eq_ok_iff (part : Section) {v : Value} {s t : Settings}
    (change : List (Value × Value) → Except ConfigError Settings) (nothing : change [] = .ok s) :
    (match part.find? v with
      | .error e => Except.error (ConfigError.sections e)
      | .ok none => .ok s
      | .ok (some inner) =>
        match part.pairs inner with
        | .error e => .error (.sections e)
        | .ok pairs => change pairs) = .ok t ↔
      ∃ pairs, part.Holds v pairs ∧ change pairs = .ok t := by
  constructor
  · intro h
    split at h
    · cases h
    · rename_i absent
      exact ⟨[], .absent absent, nothing.trans h⟩
    · rename_i inner present
      split at h
      · cases h
      rename_i pairs given
      obtain ⟨top, mapping, found⟩ := find?_eq_some_iff.mp present
      obtain ⟨opened, named⟩ := pairs_eq_ok_iff.mp given
      exact ⟨pairs, .present mapping found opened named, h⟩
  · rintro ⟨pairs, holds, changed⟩
    cases holds with
    | absent none => rw [none, ← nothing, changed]
    | present mapping found opened named =>
      rw [find?_eq_some_iff.mpr ⟨_, mapping, found⟩]
      simp only [pairs_eq_ok_iff.mpr ⟨opened, named⟩, changed]

namespace Settings

variable {s t : Settings} {v : Value}

theorem replaceLogging_eq_ok_iff :
    s.replaceLogging v = .ok t ↔
      ∃ pairs, Section.logging.Holds v pairs ∧
        t = { s with logging := s.logging.replace pairs } := by
  refine (Section.change_eq_ok_iff .logging
    (fun pairs => .ok { s with logging := s.logging.replace pairs }) rfl).trans ?_
  simp [eq_comm]

variable [Runtime]

theorem replaceScan_eq_ok_iff :
    s.replaceScan v = .ok t ↔
      ∃ pairs, Section.scan.Holds v pairs ∧ s.scan.replace pairs = .ok t.scan ∧
        t.logging = s.logging := by
  refine Iff.trans (Section.change_eq_ok_iff .scan _ ?_) ?_
  · rfl
  refine exists_congr fun pairs => and_congr_right fun _ => ?_
  obtain ⟨scan, logging⟩ := t
  cases s.scan.replace pairs <;> simp [eq_comm]

/-- Both sections are read as one layer over settings. -/
theorem exists_reads_iff {scan logging : List (Value × Value)} :
    s.scan.replace scan = .ok t.scan ∧ t.logging = s.logging.replace logging ↔
      ∃ l : Layer, l.Reads scan logging ∧ t = Layer.settings [l] s := by
  rw [ScanSettings.replace_eq_ok_iff, readField_eq_ok_iff fun _ _ => readGlobs_eq_ok_iff,
    readField_eq_ok_iff fun _ _ => readEncoding_eq_ok_iff,
    readField_eq_ok_iff fun _ _ => readSize_eq_ok_iff,
    readField_eq_ok_iff fun _ _ => readSize_eq_ok_iff]
  constructor
  · rintro ⟨⟨⟨globs, saidGlobs, hGlobs⟩, ⟨encoding, saidEncoding, hEncoding⟩,
      ⟨threshold, saidThreshold, hThreshold⟩, ⟨size, saidSize, hSize⟩⟩, hLogging⟩
    refine ⟨⟨globs, encoding, threshold, size, Value.find? (.str "level") logging,
      Value.find? (.str "format") logging⟩,
      ⟨saidGlobs, saidEncoding, saidThreshold, saidSize, rfl, rfl⟩, ?_⟩
    rw [Layer.settings_singleton]
    simp only [← hGlobs, ← hEncoding, ← hThreshold, ← hSize]
    rw [show t = ⟨t.scan, t.logging⟩ from rfl, hLogging]
    rfl
  · rintro ⟨l, reads, rfl⟩
    rw [Layer.settings_singleton]
    refine ⟨⟨⟨_, reads.excludeGlobs, rfl⟩, ⟨_, reads.encoding, rfl⟩,
      ⟨_, reads.nulRunThreshold, rfl⟩, ⟨_, reads.bufferSize, rfl⟩⟩, ?_⟩
    rw [LogSettings.replace, reads.level, reads.format]

/-- A value that can be read counts over the settings in the fields that it names. -/
theorem replace_eq_ok_iff :
    s.replace v = .ok t ↔ ∃ l, v.Says l ∧ t = Layer.settings [l] s := by
  have stages :
      s.replace v = .ok t ↔ ∃ u, s.replaceScan v = .ok u ∧ u.replaceLogging v = .ok t := by
    unfold Settings.replace
    cases s.replaceScan v <;> simp
  rw [stages]
  constructor
  · rintro ⟨u, first, second⟩
    obtain ⟨scan, holds, replaced, kept⟩ := replaceScan_eq_ok_iff.mp first
    obtain ⟨logging, holds', rfl⟩ := replaceLogging_eq_ok_iff.mp second
    have read : ∃ l : Layer, l.Reads scan logging ∧
        { u with logging := u.logging.replace logging } = Layer.settings [l] s :=
      exists_reads_iff.mp ⟨replaced, by rw [kept]⟩
    obtain ⟨l, reads, same⟩ := read
    exact ⟨l, ⟨scan, logging, holds, holds', reads⟩, same⟩
  · rintro ⟨l, ⟨scan, logging, holds, holds', reads⟩, same⟩
    obtain ⟨replaced, logged⟩ := exists_reads_iff.mpr ⟨l, reads, same⟩
    refine ⟨{ s with scan := t.scan }, replaceScan_eq_ok_iff.mpr ⟨scan, holds, replaced, rfl⟩,
      replaceLogging_eq_ok_iff.mpr ⟨logging, holds', ?_⟩⟩
    rw [← logged]

end Settings

/-! ## The environment -/

/-- What an environment says in its variables. A variable that is set counts, also with an empty
text. -/
structure Environment.Says (env : Environment) (l : Layer) : Prop where
  excludeGlobs : Option.Rel CommaList (env.lookup "NOTABS_SCAN_EXCLUDE_GLOBS") l.excludeGlobs
  encoding : Option.Rel (fun text name => name = some (Text.ofString text))
    (env.lookup "NOTABS_SCAN_ENCODING") l.encoding
  nulRunThreshold : Option.Rel (fun (text : String) n => Numeral.read text = .ok n)
    (env.lookup "NOTABS_SCAN_NUL_RUN_THRESHOLD") l.nulRunThreshold
  bufferSize : Option.Rel (fun (text : String) n => Numeral.read text = .ok n)
    (env.lookup "NOTABS_SCAN_BUFFER_SIZE") l.bufferSize
  level : Option.Rel (fun text v => v = Value.str (.ofString text))
    (env.lookup "NOTABS_LOGGING_LEVEL") l.level
  format : l.format = none

namespace Variable

variable {env : Environment} {s t u : Settings} {v : Variable} {rest : List Variable}

/-- Whether settings come from others by what a variable says, if it is set. -/
def Leads (env : Environment) (s t : Settings) (v : Variable) : Prop :=
  match env.lookup v.name with
  | none => t = s
  | some text => v.set s text = .ok t

theorem setAll_cons_eq_ok_iff :
    setAll env s (v :: rest) = (t, none) ↔
      ∃ u, v.Leads env s u ∧ setAll env u rest = (t, none) := by
  unfold Leads
  rw [setAll]
  cases env.lookup v.name with
  | none => simp
  | some text =>
    dsimp only
    cases v.set s text <;> simp

/-- A variable gives one field, and leaves the others as they were. -/
theorem leads_iff {α : Type} {Said : String → α → Prop} {old : α} (change : α → Settings)
    (kept : change old = s)
    (given : ∀ text t, v.set s text = .ok t ↔ ∃ a, Said text a ∧ t = change a) :
    v.Leads env s t ↔ ∃ said, Option.Rel Said (env.lookup v.name) said ∧
      t = change (said.getD old) := by
  unfold Leads
  cases env.lookup v.name with
  | none =>
    constructor
    · rintro rfl
      exact ⟨none, .none, kept.symm⟩
    · rintro ⟨_, ⟨⟩, rfl⟩
      exact kept
  | some text =>
    dsimp only
    rw [given]
    constructor
    · rintro ⟨a, said, rfl⟩
      exact ⟨some a, .some said, rfl⟩
    · rintro ⟨_, ⟨said⟩, rfl⟩
      exact ⟨_, said, rfl⟩

theorem leads_excludeGlobs :
    excludeGlobs.Leads env s t ↔ ∃ said,
      Option.Rel CommaList (env.lookup "NOTABS_SCAN_EXCLUDE_GLOBS") said ∧
        t = { s with scan := { s.scan with excludeGlobs := said.getD s.scan.excludeGlobs } } :=
  leads_iff (fun globs => { s with scan := { s.scan with excludeGlobs := globs } }) rfl
    fun text t => by simp [set, commaList_iff, eq_comm]

theorem leads_encoding :
    encoding.Leads env s t ↔ ∃ said,
      Option.Rel (fun text name => name = some (Text.ofString text))
          (env.lookup "NOTABS_SCAN_ENCODING") said ∧
        t = { s with scan := { s.scan with encoding := said.getD s.scan.encoding } } :=
  leads_iff (fun name => { s with scan := { s.scan with encoding := name } }) rfl
    fun text t => by simp [set, eq_comm]

theorem leads_nulRunThreshold :
    nulRunThreshold.Leads env s t ↔ ∃ said,
      Option.Rel (fun (text : String) n => Numeral.read text = .ok n)
          (env.lookup "NOTABS_SCAN_NUL_RUN_THRESHOLD") said ∧
        t = { s with scan := { s.scan with
          nulRunThreshold := said.getD s.scan.nulRunThreshold } } :=
  leads_iff (fun n => { s with scan := { s.scan with nulRunThreshold := n } }) rfl
    fun text t => by cases read : Numeral.read text <;> simp [set, read, eq_comm]

theorem leads_bufferSize :
    bufferSize.Leads env s t ↔ ∃ said,
      Option.Rel (fun (text : String) n => Numeral.read text = .ok n)
          (env.lookup "NOTABS_SCAN_BUFFER_SIZE") said ∧
        t = { s with scan := { s.scan with bufferSize := said.getD s.scan.bufferSize } } :=
  leads_iff (fun n => { s with scan := { s.scan with bufferSize := n } }) rfl
    fun text t => by cases read : Numeral.read text <;> simp [set, read, eq_comm]

theorem leads_level :
    level.Leads env s t ↔ ∃ said,
      Option.Rel (fun text v => v = Value.str (.ofString text))
          (env.lookup "NOTABS_LOGGING_LEVEL") said ∧
        t = { s with logging := { s.logging with level := said.getD s.logging.level } } :=
  leads_iff (fun level => { s with logging := { s.logging with level := level } }) rfl
    fun text t => by simp [set, eq_comm]

end Variable

/-- An environment whose sizes are numerals counts over the settings in the fields that it names. -/
theorem Settings.override_eq_ok_iff {s t : Settings} {env : Environment} :
    s.override env = (t, none) ↔ ∃ l, env.Says l ∧ t = Layer.settings [l] s := by
  unfold Settings.override Variable.all
  simp only [Variable.setAll_cons_eq_ok_iff, Variable.leads_excludeGlobs, Variable.leads_encoding,
    Variable.leads_nulRunThreshold, Variable.leads_bufferSize, Variable.leads_level]
  constructor
  · rintro ⟨_, ⟨globs, saidGlobs, rfl⟩, _, ⟨encoding, saidEncoding, rfl⟩,
      _, ⟨threshold, saidThreshold, rfl⟩, _, ⟨size, saidSize, rfl⟩, _, ⟨level, saidLevel, rfl⟩,
      last⟩
    cases last
    refine ⟨⟨globs, encoding, threshold, size, level, none⟩,
      ⟨saidGlobs, saidEncoding, saidThreshold, saidSize, saidLevel, rfl⟩, ?_⟩
    rw [Layer.settings_singleton]
    rfl
  · rintro ⟨l, told, rfl⟩
    refine ⟨_, ⟨_, told.excludeGlobs, rfl⟩, _, ⟨_, told.encoding, rfl⟩,
      _, ⟨_, told.nulRunThreshold, rfl⟩, _, ⟨_, told.bufferSize, rfl⟩, _, ⟨_, told.level, rfl⟩, ?_⟩
    rw [Layer.settings_singleton, told.format]
    rfl

/-! ## All sources -/

/-- What the options of a command line say. The exclusion globs among them are no layer. -/
def CheckRequest.layer (r : CheckRequest) : Layer where
  excludeGlobs := none
  encoding := r.encoding.map fun name => some (.ofString name)
  nulRunThreshold := r.nulThreshold
  bufferSize := r.bufferSize
  level := if r.verbose then some (.str "DEBUG") else none
  format := none

theorem Settings.extend_eq (s : Settings) (r : CheckRequest) :
    s.extend r =
      let top := Layer.settings [r.layer] s
      { top with scan := { top.scan with
          excludeGlobs := top.scan.excludeGlobs ++ r.exclude.map .ofString } } := by
  rw [Layer.settings_singleton]
  unfold Settings.extend CheckRequest.layer
  cases r.encoding <;> cases r.verbose <;> rfl

/-- The value of the file that a command line names. Without a file there is an empty mapping. -/
def CheckRequest.fileValue [Runtime] (r : CheckRequest) (d : Disk) : Except ConfigError Value :=
  match r.config with
  | none => .ok (.dict [])
  | some path => d.readConfig (Path.read path)

theorem Settings.before_eq_ok_iff [Runtime] {r : CheckRequest} {d : Disk} {s : Settings} :
    Settings.before d r.config = .ok s ↔
      ∃ v, r.fileValue d = .ok v ∧ Settings.builtIn.replace v = .ok s := by
  unfold Settings.before CheckRequest.fileValue
  cases r.config with
  | none =>
    have same : Settings.builtIn.replace (.dict []) = .ok Settings.builtIn := rfl
    simp [same]
  | some path =>
    simp only [Settings.ofFile]
    cases d.readConfig (Path.read path) with
    | error e => simp
    | ok v => simp [Settings.ofValue, Defaults.settings]

/-- The settings of a check come from those of the file, under the environment and the options. -/
theorem CheckRequest.settings_stages [Runtime] {r : CheckRequest} {d : Disk} {env : Environment}
    {s : Settings} :
    r.settings d env = .ok s ↔ ∃ v file environment, r.fileValue d = .ok v ∧ v.Says file ∧
      env.Says environment ∧
      s = (Layer.settings [environment] (Layer.settings [file] .builtIn)).extend r := by
  have stages : r.settings d env = .ok s ↔ ∃ t u, Settings.before d r.config = .ok t ∧
      t.override env = (u, none) ∧ s = u.extend r := by
    rw [r.settings_eq]
    cases Settings.before d r.config with
    | error e => simp
    | ok t =>
      dsimp only
      rcases overridden : t.override env with ⟨u, _ | e⟩ <;> simp [overridden, eq_comm]
  rw [stages]
  simp only [Settings.before_eq_ok_iff, Settings.replace_eq_ok_iff, Settings.override_eq_ok_iff]
  constructor
  · rintro ⟨_, _, ⟨v, given, file, fromFile, rfl⟩, ⟨environment, fromEnv, rfl⟩, rfl⟩
    exact ⟨v, file, environment, given, fromFile, fromEnv, rfl⟩
  · rintro ⟨v, file, environment, given, fromFile, fromEnv, rfl⟩
    exact ⟨_, _, ⟨v, given, file, fromFile, rfl⟩, ⟨environment, fromEnv, rfl⟩, rfl⟩

/-- There are settings just if the file and the environment can be read, and then each is as the
first source says that names it: the command line, the environment, the file, or else the built-in
settings. The exclusion globs of the command line come behind the others, in their order. -/
theorem CheckRequest.settings_eq_ok_iff [Runtime] {r : CheckRequest} {d : Disk} {env : Environment}
    {s : Settings} :
    r.settings d env = .ok s ↔
      ∃ v file environment, r.fileValue d = .ok v ∧ v.Says file ∧ env.Says environment ∧
        s =
          let chosen := Layer.settings [r.layer, environment, file] .builtIn
          { chosen with scan := { chosen.scan with
              excludeGlobs := chosen.scan.excludeGlobs ++ r.exclude.map .ofString } } := by
  rw [settings_stages]
  refine exists_congr fun v => exists_congr fun file => exists_congr fun environment => ?_
  rw [Settings.extend_eq, Layer.settings_cons r.layer [environment, file],
    Layer.settings_cons environment [file]]

attribute [local instance] Yaml.runtime

/-- An empty variable counts over the built-in settings, and an option over a variable. -/
example :
    CheckRequest.settings ⟨".", ["*.md"], none, some 3, none, none, true⟩ bareDisk
        [("NOTABS_SCAN_ENCODING", ""), ("NOTABS_SCAN_EXCLUDE_GLOBS", " a, ,b"),
          ("NOTABS_SCAN_NUL_RUN_THRESHOLD", "2")] =
      .ok { scan := { excludeGlobs := ["a", "b", "*.md"], encoding := some "", nulRunThreshold := 3,
                      bufferSize := 8192 }
            logging := { level := .str "DEBUG", format := .str "%(message)s" } } := by
  cbv

end TabAudit
