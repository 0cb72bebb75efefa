import Mathlib
import TabAudit.Config.File
import TabAudit.Yaml.Library

/-!
# Which settings are valid

A section of a file leaves settings valid, and so do the defaults: the sizes are looked at wherever
they come from a value. A variable of the environment is not looked at, so settings that were loaded
are valid just when the variables for sizes hold usable ones.
-/

namespace TabAudit

/-! ## What a value gives -/

namespace Value

/-- Whether a value gives globs: it is a row of texts. -/
def GivesGlobs (v : Value) (globs : List Text) : Prop :=
  v.opened = .list (globs.map .str) ∨ v.opened = .tuple (globs.map .str)

/-- Whether a value gives an encoding: it is nothing, or a name. -/
def GivesEncoding (v : Value) (name : Option Text) : Prop := v = (name.map .str).getD .null

/-- Whether a value gives a size: there is a positive whole number in it. -/
def GivesSize (v : Value) (n : Int) : Prop := v.toWhole? = some n ∧ 1 ≤ n

theorem toWhole?_of_isInfinite {v : Value} (h : v.isInfinite = true) : v.toWhole? = none := by
  cases v with
  | float x =>
    have infinite : x.isInfinite = true := h
    simp [toWhole?, infinite]
  | _ => cases h

end Value

section

variable [Runtime] {v : Value}

theorem readGlobItems_eq_ok_iff {items : List Value} {globs : List Text} :
    readGlobItems items = .ok globs ↔ items = globs.map .str := by
  induction items generalizing globs with
  | nil => cases globs <;> simp [readGlobItems]
  | cons item rest ih =>
    cases item with
    | str glob =>
      rw [readGlobItems]
      cases read : readGlobItems rest with
      | error e =>
        refine iff_of_false (by simp) fun same => ?_
        obtain ⟨first, others, rfl, -, same⟩ := List.map_eq_cons_iff.mp same.symm
        simp [ih.mpr same.symm] at read
      | ok others =>
        obtain rfl := ih.mp read
        cases globs with
        | nil => simp
        | cons first more => simp [List.map_inj_right fun _ _ => Value.str.inj]
    | _ => exact iff_of_false (by simp [readGlobItems]) (by cases globs <;> simp)

theorem readGlobs_eq_ok_iff {globs : List Text} : readGlobs v = .ok globs ↔ v.GivesGlobs globs := by
  unfold readGlobs Value.GivesGlobs
  cases v.opened <;> simp [readGlobItems_eq_ok_iff]

theorem readEncoding_eq_ok_iff {name : Option Text} :
    readEncoding v = .ok name ↔ v.GivesEncoding name := by
  unfold Value.GivesEncoding
  cases v <;> cases name <;> simp [readEncoding, eq_comm]

theorem readSize_eq_ok_iff {size : ScanSize} {n : Int} :
    readSize size v = .ok n ↔ v.GivesSize n := by
  unfold readSize Value.GivesSize
  cases infinite : v.isInfinite with
  | true => simp [Value.toWhole?_of_isInfinite infinite]
  | false =>
    cases v.toWhole? with
    | none => simp
    | some m =>
      by_cases small : m < 1
      · simp only [Bool.false_eq_true, if_false, if_pos small, Option.some.injEq]
        exact iff_of_false (by simp) (by omega)
      · simp only [Bool.false_eq_true, if_false, if_neg small, Except.ok.injEq, Option.some.injEq]
        exact ⟨fun same => ⟨same, by omega⟩, fun both => both.1⟩

end

/-! ## Settings -/

/-- The size of settings. -/
def ScanSettings.size (s : ScanSettings) : ScanSize → Int
  | .nulRunThreshold => s.nulRunThreshold
  | .bufferSize => s.bufferSize

theorem ScanSettings.valid_iff (s : ScanSettings) : s.Valid ↔ ∀ size, 1 ≤ s.size size := by
  constructor
  · rintro ⟨threshold, buffer⟩ size
    cases size
    · exact threshold
    · exact buffer
  · exact fun h => ⟨h .nulRunThreshold, h .bufferSize⟩

theorem Settings.replaceLogging_scan {s t : Settings} {v : Value}
    (h : s.replaceLogging v = .ok t) : t.scan = s.scan := by
  unfold Settings.replaceLogging at h
  split at h
  · cases h
  · cases h
    rfl
  split at h
  · cases h
  · cases h
    rfl

section

variable [Runtime]

theorem readSize_int (size : ScanSize) (n : Int) :
    readSize size (.int n) = if n < 1 then .error (.sizeNotPositive size n) else .ok n := rfl

theorem pos_of_readSize {size : ScanSize} {v : Value} {n : Int} (h : readSize size v = .ok n) :
    1 ≤ n := (readSize_eq_ok_iff.mp h).2

theorem pos_of_readField {size : ScanSize} {pairs : List (Value × Value)} {key : String}
    {old n : Int} (pos : 1 ≤ old) (h : readField pairs key (readSize size) old = .ok n) :
    1 ≤ n := by
  unfold readField at h
  split at h
  · exact pos_of_readSize h
  · cases h
    exact pos

/-! ## Sections -/

namespace ScanSettings

variable {s t : ScanSettings} {pairs : List (Value × Value)}

/-- What replaces fields of valid settings is valid. -/
theorem Valid.replace (valid : s.Valid) (h : s.replace pairs = .ok t) : t.Valid := by
  unfold ScanSettings.replace at h
  split at h
  · cases h
  split at h
  · cases h
  split at h
  · cases h
  rename_i threshold
  split at h
  · cases h
  rename_i buffer
  cases h
  exact ⟨pos_of_readField valid.1 threshold, pos_of_readField valid.2 buffer⟩

/-- Settings that are read in the place of any others are the same settings, if they are valid; and
if they are not, they are refused. -/
theorem replace_toPairs_iff (base : ScanSettings) :
    base.replace t.toPairs = .ok t ↔ t.Valid := by
  have globs : readField t.toPairs "exclude_globs" readGlobs base.excludeGlobs =
      .ok t.excludeGlobs :=
    readGlobs_eq_ok_iff (v := .list (t.excludeGlobs.map .str)).mpr (.inl rfl)
  have encoding : readField t.toPairs "encoding" readEncoding base.encoding = .ok t.encoding :=
    readEncoding_eq_ok_iff.mpr rfl
  have threshold : readField t.toPairs "nul_run_threshold" (readSize .nulRunThreshold)
      base.nulRunThreshold = readSize .nulRunThreshold (.int t.nulRunThreshold) := rfl
  have buffer : readField t.toPairs "buffer_size" (readSize .bufferSize) base.bufferSize =
      readSize .bufferSize (.int t.bufferSize) := rfl
  simp only [ScanSettings.replace, globs, encoding, threshold, buffer, readSize_int, Valid]
  by_cases first : t.nulRunThreshold < 1
  · rw [if_pos first]
    exact iff_of_false (by simp) (by omega)
  · rw [if_neg first]
    by_cases second : t.bufferSize < 1
    · rw [if_pos second]
      exact iff_of_false (by simp) (by omega)
    · rw [if_neg second]
      exact iff_of_true rfl (by omega)

end ScanSettings

/-! ## Defaults and files -/

/-- Defaults are valid, wherever they come from. -/
theorem Defaults.ofValue_valid {v : Value} {s : Settings} (h : Defaults.ofValue v = .ok s) :
    s.scan.Valid := by
  unfold Defaults.ofValue at h
  repeat' split at h
  all_goals cases h
  rename_i replaced _ _ _
  exact Settings.builtIn_valid.replace replaced

theorem Defaults.settings_valid {defaults : Defaults} {s : Settings}
    (h : defaults.settings.1 = .ok s) : s.scan.Valid := by
  cases defaults with
  | builtIn =>
    cases h
    exact Settings.builtIn_valid
  | missing path =>
    cases h
    exact Settings.builtIn_valid
  | text content =>
    simp only [Defaults.settings] at h
    split at h
    · exact Defaults.ofValue_valid h
    · split at h
      · cases h
        exact Settings.builtIn_valid
      · cases h

namespace Settings

variable {s t : Settings} {v : Value} {defaults : Defaults} {d : Disk} {env : Environment}

theorem replaceScan_valid (valid : s.scan.Valid) (h : s.replaceScan v = .ok t) :
    t.scan.Valid := by
  unfold replaceScan at h
  split at h
  · cases h
  · cases h
    exact valid
  split at h
  · cases h
  split at h
  · cases h
  · rename_i replaced
    cases h
    exact valid.replace replaced

theorem replace_valid (valid : s.scan.Valid) (h : s.replace v = .ok t) : t.scan.Valid := by
  unfold replace at h
  split at h
  · cases h
  · rename_i replaced
    rw [replaceLogging_scan h]
    exact replaceScan_valid valid replaced

theorem ofValue_valid (h : (ofValue defaults v).1 = .ok s) : s.scan.Valid := by
  unfold ofValue at h
  split at h
  · cases h
  · rename_i given
    exact replace_valid (Defaults.settings_valid (by rw [given])) h

theorem ofFile_valid {p : Path} (h : (ofFile d defaults p).1 = .ok s) : s.scan.Valid := by
  unfold ofFile at h
  split at h
  · cases h
  · exact ofValue_valid h

end Settings

end

/-! ## The environment -/

/-- The variable that a size is given in. -/
def ScanSize.variable : ScanSize → Variable
  | .nulRunThreshold => .nulRunThreshold
  | .bufferSize => .bufferSize

/-- The size after a variable has been looked at, from that before it. -/
def Environment.Gives (env : Environment) (size : ScanSize) (old new : Int) : Prop :=
  match env.lookup size.variable.name with
  | none => new = old
  | some text => Numeral.read text = .ok new

namespace Variable

variable {env : Environment} {s t : Settings} {size : ScanSize}

/-- A variable sets its own size, and no other. -/
theorem size_of_set (size : ScanSize) {v : Variable} {text : String} (h : v.set s text = .ok t) :
    if v = size.variable then Numeral.read text = .ok (t.scan.size size)
    else t.scan.size size = s.scan.size size := by
  cases v with
  | excludeGlobs => cases h; cases size <;> rfl
  | encoding => cases h; cases size <;> rfl
  | level => cases h; cases size <;> rfl
  | nulRunThreshold =>
    simp only [set] at h
    split at h
    · cases h
    · rename_i n read
      cases h
      cases size
      · exact read
      · rfl
  | bufferSize =>
    simp only [set] at h
    split at h
    · cases h
    · rename_i n read
      cases h
      cases size
      · rfl
      · exact read

/-- Variables that do not give a size leave it as it was. -/
theorem size_of_setAll_ne {vs : List Variable} (h : setAll env s vs = (t, none))
    (other : size.variable ∉ vs) : t.scan.size size = s.scan.size size := by
  fun_induction setAll env s vs with
  | case1 s => cases h; rfl
  | case2 s v rest unset ih => exact ih h fun member => other (by simp [member])
  | case3 s v rest text set e failed => cases h
  | case4 s v rest text set u done ih =>
    rw [ih h fun member => other (by simp [member])]
    have kept := size_of_set size done
    rwa [if_neg (by rintro rfl; simp at other)] at kept

/-- Each size is as its variable gives it. -/
theorem size_of_setAll {vs : List Variable} (h : setAll env s vs = (t, none)) (once : vs.Nodup)
    (member : size.variable ∈ vs) : env.Gives size (s.scan.size size) (t.scan.size size) := by
  fun_induction setAll env s vs with
  | case1 s => simp at member
  | case2 s v rest unset ih =>
    obtain ⟨later, once⟩ := List.nodup_cons.mp once
    rcases List.mem_cons.mp member with rfl | member
    · unfold Environment.Gives
      rw [unset]
      exact size_of_setAll_ne h later
    · exact ih h once member
  | case3 s v rest text set e failed => cases h
  | case4 s v rest text set u done ih =>
    obtain ⟨later, once⟩ := List.nodup_cons.mp once
    have first := size_of_set size done
    rcases List.mem_cons.mp member with rfl | member
    · rw [if_pos rfl] at first
      unfold Environment.Gives
      rw [set, size_of_setAll_ne h later]
      exact first
    · rw [if_neg (ne_of_mem_of_not_mem member later).symm] at first
      rw [← first]
      exact ih h once member

end Variable

/-- The variables for sizes that are set hold usable ones. -/
def Environment.SizesUsable (env : Environment) : Prop :=
  ∀ (size : ScanSize) (text : String), env.lookup size.variable.name = some text →
    ∃ n, Numeral.read text = .ok n ∧ 1 ≤ n

namespace Settings

variable {s t : Settings} {defaults : Defaults} {d : Disk} {env : Environment}

/-- Valid settings stay so under an environment just when its sizes are usable. -/
theorem override_valid_iff (valid : s.scan.Valid) (h : s.override env = (t, none)) :
    t.scan.Valid ↔ env.SizesUsable := by
  have gives (size : ScanSize) : env.Gives size (s.scan.size size) (t.scan.size size) :=
    Variable.size_of_setAll h (by decide) (by cases size <;> decide)
  rw [ScanSettings.valid_iff]
  rw [ScanSettings.valid_iff] at valid
  unfold Environment.Gives at gives
  constructor
  · intro usable size text set
    have given := gives size
    rw [set] at given
    exact ⟨_, given, usable size⟩
  · intro usable size
    have given := gives size
    cases set : env.lookup size.variable.name with
    | none =>
      rw [set] at given
      exact given ▸ valid size
    | some text =>
      rw [set] at given
      obtain ⟨n, read, pos⟩ := usable size text set
      cases given.symm.trans read
      exact pos

/-- Settings that were loaded are valid ones under the environment. -/
theorem load_cases [Runtime] {p : Option Path} (h : (load d defaults env p).1 = .ok s) :
    ∃ before : Settings, before.scan.Valid ∧ before.override env = (s, none) := by
  unfold load at h
  dsimp only at h
  split at h
  · cases h
  rename_i before given
  refine ⟨before, ?_, ?_⟩
  · cases p with
    | none => exact ofValue_valid given
    | some p => exact ofFile_valid given
  · split at h
    · cases h
    · rename_i overridden
      cases h
      exact overridden

/-- Settings that were loaded are valid just when every size that the environment sets is usable,
and just then they are read back, in the place of any others, as they are. -/
theorem load_valid_iff [Runtime] {p : Option Path} (h : (load d defaults env p).1 = .ok s) :
    (s.scan.Valid ↔ env.SizesUsable) ∧
      ∀ base : ScanSettings, base.replace s.scan.toPairs = .ok s.scan ↔ s.scan.Valid := by
  obtain ⟨before, valid, overridden⟩ := load_cases h
  exact ⟨override_valid_iff valid overridden, ScanSettings.replace_toPairs_iff⟩

/-- An empty disk. -/
def bareDisk : Disk := ⟨.empty, [], ""⟩

attribute [local instance] Yaml.runtime

/-- An environment with a size that can be used. -/
theorem load_valid_iff_sixteen :
    ∃ s, (load bareDisk .builtIn [("NOTABS_SCAN_BUFFER_SIZE", "16")] none).1 = .ok s ∧
      s.scan.Valid ∧ builtIn.scan.replace s.scan.toPairs = .ok s.scan := by
  have loaded : (load bareDisk .builtIn [("NOTABS_SCAN_BUFFER_SIZE", "16")] none).1 =
      .ok { builtIn with scan := { builtIn.scan with bufferSize := 16 } } := by
    cbv
  obtain ⟨valid, accepted⟩ := load_valid_iff loaded
  have usable : Environment.SizesUsable [("NOTABS_SCAN_BUFFER_SIZE", "16")] := by
    intro size text set
    cases size with
    | nulRunThreshold => cases set
    | bufferSize =>
      cases set
      exact ⟨16, by cbv, by decide⟩
  exact ⟨_, loaded, valid.mpr usable, (accepted _).mpr (valid.mpr usable)⟩

/-- A size of zero in the environment is taken, and the settings are refused when they are read
back. -/
theorem load_zeroSize :
    ∃ s, (load bareDisk .builtIn [("NOTABS_SCAN_BUFFER_SIZE", "0")] none).1 = .ok s ∧
      ¬ s.scan.Valid ∧
      builtIn.scan.replace s.scan.toPairs = .error (.sizeNotPositive .bufferSize 0) := by
  have loaded : (load bareDisk .builtIn [("NOTABS_SCAN_BUFFER_SIZE", "0")] none).1 =
      .ok { builtIn with scan := { builtIn.scan with bufferSize := 0 } } := by
    cbv
  exact ⟨_, loaded, by decide, rfl⟩

end Settings

end TabAudit
