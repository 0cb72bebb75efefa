import TabAudit.Proofs.Config.Validity

/-!
# What becomes of the values of a scan section

Each field of a section has a value that it can be read from, or one that is unfit for it for a
reason of its own. Settings come out just if every value that is given can be read; otherwise the
first unfit one counts, and what is wrong is a wrong value, unless it is an infinite number in the
place of a size or is too deep to be shown.
-/

namespace TabAudit

/-- The fields of the scan section. -/
inductive ScanField where
  | excludeGlobs
  | encoding
  | size (size : ScanSize)
  deriving DecidableEq, Repr

namespace ScanField

def key : ScanField → String
  | excludeGlobs => "exclude_globs"
  | encoding => "encoding"
  | size .nulRunThreshold => "nul_run_threshold"
  | size .bufferSize => "buffer_size"

/-- The fields in the order in which they are looked at. -/
def all : List ScanField :=
  [excludeGlobs, encoding, size .nulRunThreshold, size .bufferSize]

/-- Whether settings have the same in a field. -/
def Same (s t : ScanSettings) : ScanField → Prop
  | excludeGlobs => t.excludeGlobs = s.excludeGlobs
  | encoding => t.encoding = s.encoding
  | size which => t.size which = s.size which

/-- Whether settings have in a field what a value says. -/
def Reads (t : ScanSettings) : ScanField → Value → Prop
  | excludeGlobs, v => v.GivesGlobs t.excludeGlobs
  | encoding, v => v.GivesEncoding t.encoding
  | size which, v => v.GivesSize (t.size which)

/-- The value that is blamed where a value is of no type for a field, which is the first item that
is no text in a row of globs, and what is said of it once it is shown. -/
inductive Blames : ScanField → Value → Value → (String → FieldFault) → Prop
  | globsNotListed {v : Value} (other : ∀ items, v.opened ≠ .list items ∧ v.opened ≠ .tuple items) :
      Blames .excludeGlobs v v .globsNotListed
  | globNotText {v item : Value} {front : List Text} {back : List Value}
      (row : v.opened = .list (front.map .str ++ item :: back) ∨
        v.opened = .tuple (front.map .str ++ item :: back))
      (other : ∀ t, item ≠ .str t) : Blames .excludeGlobs v item .globNotText
  | encodingNotText {v : Value} (something : v ≠ .null) (other : ∀ t, v ≠ .str t) :
      Blames .encoding v v .encodingNotText
  | sizeNotWhole {which : ScanSize} {v : Value} (finite : v.isInfinite = false)
      (other : v.toWhole? = none) : Blames (.size which) v v (.sizeNotWhole which)

/-- Why a value is unfit for a field. -/
inductive Unfit [Runtime] : ScanField → Value → FieldFault → Prop
  | blamed {f : ScanField} {v blamed : Value} {message : String → FieldFault}
      (blames : f.Blames v blamed message) : Unfit f v (.showing blamed message)
  | sizeNotPositive {which : ScanSize} {v : Value} {n : Int} (whole : v.toWhole? = some n)
      (small : n < 1) : Unfit (.size which) v (.sizeNotPositive which n)
  | sizeInfinite {which : ScanSize} {v : Value} (infinite : v.isInfinite = true) :
      Unfit (.size which) v .sizeInfinite

/-! ## What is blamed -/

variable {s t u : ScanSettings} {f : ScanField} {v : Value}

theorem Same.refl (s : ScanSettings) (f : ScanField) : f.Same s s := by
  cases f <;> rfl

theorem Same.trans (h : f.Same s t) (h' : f.Same t u) : f.Same s u := by
  cases f <;> exact Eq.trans h' h

/-- What a field says is that of settings that are the same there. -/
theorem Reads.congr (h : f.Reads s v) (same : f.Same s t) : f.Reads t v := by
  cases f with
  | excludeGlobs =>
    have same : t.excludeGlobs = s.excludeGlobs := same
    rwa [Reads, same]
  | encoding =>
    have same : t.encoding = s.encoding := same
    rwa [Reads, same]
  | size which =>
    have same : t.size which = s.size which := same
    rwa [Reads, same]

/-- No settings have what a value says that is of no type for a field. -/
theorem Blames.not_reads {blamed : Value} {message : String → FieldFault}
    (h : f.Blames v blamed message) (t : ScanSettings) : ¬ f.Reads t v := by
  intro reads
  cases h with
  | globsNotListed other =>
    rcases reads with list | tuple
    · exact (other _).1 list
    · exact (other _).2 tuple
  | @globNotText _ _ front back row other =>
    have reads : v.GivesGlobs t.excludeGlobs := reads
    have same : front.map Value.str ++ blamed :: back = t.excludeGlobs.map .str := by
      unfold Value.GivesGlobs at reads
      rcases row with opened | opened <;> rw [opened] at reads <;> simpa using reads
    have member : blamed ∈ t.excludeGlobs.map Value.str := same ▸ by simp
    obtain ⟨glob, -, text⟩ := List.mem_map.mp member
    exact other glob text.symm
  | encodingNotText something other =>
    have reads : v = (t.encoding.map .str).getD .null := reads
    cases named : t.encoding with
    | none => exact something (by rw [reads, named]; rfl)
    | some name => exact other name (by rw [reads, named]; rfl)
  | sizeNotWhole finite other =>
    obtain ⟨whole, -⟩ := reads
    simp [other] at whole

/-- The first item that is no text is one and the same. -/
theorem first_unique {a b : Value} {front front' : List Text} {back back' : List Value}
    (ha : ∀ t, a ≠ .str t) (hb : ∀ t, b ≠ .str t)
    (same : front.map .str ++ a :: back = front'.map .str ++ b :: back') : a = b := by
  induction front generalizing front' with
  | nil =>
    cases front' with
    | nil => exact (List.cons.inj same).1
    | cons t rest => exact absurd (List.cons.inj same).1 (ha t)
  | cons t rest ih =>
    cases front' with
    | nil => exact absurd (List.cons.inj same).1.symm (hb t)
    | cons u others => exact ih (List.cons.inj same).2

/-- One value alone is blamed. -/
theorem Blames.unique {a b : Value} {p q : String → FieldFault} (h : f.Blames v a p)
    (h' : f.Blames v b q) : a = b := by
  cases h with
  | globsNotListed other =>
    cases h' with
    | globsNotListed => rfl
    | globNotText row =>
      rcases row with list | tuple
      · exact absurd list (other _).1
      · exact absurd tuple (other _).2
  | @globNotText _ _ front back row other =>
    cases h' with
    | globsNotListed other' =>
      rcases row with list | tuple
      · exact absurd list (other' _).1
      · exact absurd tuple (other' _).2
    | @globNotText _ _ front' back' row' other' =>
      have same : front.map Value.str ++ a :: back = front'.map Value.str ++ b :: back' := by
        rcases row with opened | opened <;> rw [opened] at row' <;> simpa using row'
      exact first_unique other other' same
  | encodingNotText => cases h' with | encodingNotText => rfl
  | sizeNotWhole => cases h' with | sizeNotWhole => rfl

/-- The keys of the fields are those that a scan section may have. -/
theorem key_known (f : ScanField) :
    Text.ofString f.key ≠ Text.ofString reservedKey ∧
      (Section.scan.fields.map Text.ofString).contains (Text.ofString f.key) = true := by
  cases f with
  | size which => cases which <;> decide
  | _ => decide

end ScanField

theorem Section.pairs_scan {pairs : List (Value × Value)}
    (keys : ∀ e ∈ pairs, ∃ f : ScanField, e.1 = .str f.key) :
    Section.scan.pairs (.dict pairs) = .ok pairs := by
  have texts : (pairs.any fun e => !e.1.isStr) = false := by
    refine List.any_eq_false.mpr fun e member => ?_
    obtain ⟨f, key⟩ := keys e member
    simp [key, Value.isStr]
  have known : Section.scan.firstStranger? pairs = none := by
    clear texts
    induction pairs with
    | nil => rfl
    | cons e rest ih =>
      obtain ⟨⟨f, key⟩, others⟩ := List.forall_mem_cons.mp keys
      obtain ⟨k, v⟩ := e
      obtain rfl : k = .str f.key := key
      rw [firstStranger?, if_neg f.key_known.1, if_pos f.key_known.2]
      exact ih others
  simp only [Section.pairs, Value.opened, known]
  rw [if_neg (by simpa using texts)]

/-! ## One value -/

theorem map_eq_ok {α β : Type} {x : Except FieldFault α} {change : α → β} {b : β}
    (h : x.map change = .ok b) : ∃ a, x = .ok a ∧ change a = b := by
  cases x with
  | error e => cases h
  | ok a => exact ⟨a, rfl, Except.ok.inj h⟩

theorem map_eq_error {α β : Type} {x : Except FieldFault α} {change : α → β} {e : FieldFault}
    (h : x.map change = .error e) : x = .error e := by
  cases x with
  | error e => exact congrArg Except.error (Except.error.inj h)
  | ok a => cases h

section

variable [Runtime]

theorem readGlobItems_eq_error {items : List Value} {e : FieldFault}
    (h : readGlobItems items = .error e) :
    ∃ (front : List Text) (item : Value) (back : List Value),
      items = front.map .str ++ item :: back ∧ (∀ t, item ≠ .str t) ∧
        e = .showing item .globNotText := by
  fun_induction readGlobItems items with
  | case1 => cases h
  | case2 glob rest fault failed ih =>
    cases h
    obtain ⟨front, item, back, rfl, other, rfl⟩ := ih failed
    exact ⟨glob :: front, item, back, rfl, other, rfl⟩
  | case3 glob rest globs read ih => cases h
  | case4 item rest other =>
    cases h
    exact ⟨[], item, rest, rfl, fun t => other t, rfl⟩

theorem unfit_of_readGlobs {v : Value} {e : FieldFault} (h : readGlobs v = .error e) :
    ScanField.Unfit .excludeGlobs v e := by
  unfold readGlobs at h
  split at h
  · rename_i items opened
    obtain ⟨front, item, back, rfl, other, rfl⟩ := readGlobItems_eq_error h
    exact .blamed (.globNotText (.inl opened) other)
  · rename_i items opened
    obtain ⟨front, item, back, rfl, other, rfl⟩ := readGlobItems_eq_error h
    exact .blamed (.globNotText (.inr opened) other)
  · rename_i no_list no_tuple
    cases h
    exact .blamed (.globsNotListed fun items => ⟨no_list items, no_tuple items⟩)

theorem unfit_of_readEncoding {v : Value} {e : FieldFault} (h : readEncoding v = .error e) :
    ScanField.Unfit .encoding v e := by
  unfold readEncoding at h
  split at h
  · cases h
  · cases h
  · rename_i something other
    cases h
    exact .blamed (.encodingNotText something other)

theorem unfit_of_readSize {which : ScanSize} {v : Value} {e : FieldFault}
    (h : readSize which v = .error e) : ScanField.Unfit (.size which) v e := by
  unfold readSize at h
  split at h
  · rename_i infinite
    cases h
    exact .sizeInfinite infinite
  rename_i finite
  split at h
  · rename_i other
    cases h
    exact .blamed (.sizeNotWhole (by simpa using finite) other)
  · rename_i n whole
    split at h
    · rename_i small
      cases h
      exact .sizeNotPositive whole small
    · cases h

/-! ## One field -/

namespace ScanField

variable {s t u : ScanSettings} {f g : ScanField} {v : Value} {e : FieldFault}
variable {pairs : List (Value × Value)}

/-- Settings with a field from a value. -/
def put (s : ScanSettings) (v : Value) : ScanField → Except FieldFault ScanSettings
  | excludeGlobs => (readGlobs v).map fun globs => { s with excludeGlobs := globs }
  | encoding => (readEncoding v).map fun name => { s with encoding := name }
  | size .nulRunThreshold =>
    (readSize .nulRunThreshold v).map fun n => { s with nulRunThreshold := n }
  | size .bufferSize => (readSize .bufferSize v).map fun n => { s with bufferSize := n }

/-- A field that is set has what the value says, and the others stay as they were. -/
theorem put_ok (h : f.put s v = .ok t) : f.Reads t v ∧ ∀ g ≠ f, g.Same s t := by
  cases f with
  | excludeGlobs =>
    obtain ⟨globs, read, rfl⟩ := map_eq_ok h
    refine ⟨readGlobs_eq_ok_iff.mp read, fun g other => ?_⟩
    rcases g with _ | _ | _ | _ <;> first | rfl | exact absurd rfl other
  | encoding =>
    obtain ⟨name, read, rfl⟩ := map_eq_ok h
    refine ⟨readEncoding_eq_ok_iff.mp read, fun g other => ?_⟩
    rcases g with _ | _ | _ | _ <;> first | rfl | exact absurd rfl other
  | size which =>
    -- The two sizes are read alike, but each goes to its own place.
    cases which with
    | nulRunThreshold =>
      obtain ⟨n, read, rfl⟩ := map_eq_ok h
      refine ⟨readSize_eq_ok_iff.mp read, fun g other => ?_⟩
      rcases g with _ | _ | _ | _ <;> first | rfl | exact absurd rfl other
    | bufferSize =>
      obtain ⟨n, read, rfl⟩ := map_eq_ok h
      refine ⟨readSize_eq_ok_iff.mp read, fun g other => ?_⟩
      rcases g with _ | _ | _ | _ <;> first | rfl | exact absurd rfl other

theorem put_error (h : f.put s v = .error e) : f.Unfit v e := by
  cases f with
  | excludeGlobs => exact unfit_of_readGlobs (map_eq_error h)
  | encoding => exact unfit_of_readEncoding (map_eq_error h)
  | size which =>
    cases which with
    | nulRunThreshold => exact unfit_of_readSize (map_eq_error h)
    | bufferSize => exact unfit_of_readSize (map_eq_error h)

/-- No settings have what an unfit value says. -/
theorem Unfit.not_reads (h : f.Unfit v e) (t : ScanSettings) : ¬ f.Reads t v := by
  cases h with
  | blamed blames => exact blames.not_reads t
  | @sizeNotPositive _ _ n whole small =>
    rintro ⟨whole', positive⟩
    cases whole.symm.trans whole'
    omega
  | sizeInfinite infinite =>
    rintro ⟨whole, -⟩
    simp [Value.toWhole?_of_isInfinite infinite] at whole

/-! ## All fields -/

/-- What becomes of a field: it is as the value given for it says, or else as it was. -/
structure Given (pairs : List (Value × Value)) (s t : ScanSettings) (f : ScanField) : Prop where
  reads : ∀ v, Value.find? (.str f.key) pairs = some v → f.Reads t v
  same : Value.find? (.str f.key) pairs = none → f.Same s t

/-- Settings with the field that pairs name, if they do. -/
def set (pairs : List (Value × Value)) (s : ScanSettings) (f : ScanField) :
    Except FieldFault ScanSettings :=
  match Value.find? (.str f.key) pairs with
  | some v => f.put s v
  | none => .ok s

/-- Settings with each of some fields that pairs name. -/
def setAll (pairs : List (Value × Value)) :
    ScanSettings → List ScanField → Except FieldFault ScanSettings
  | s, [] => .ok s
  | s, f :: rest =>
    match f.set pairs s with
    | .error e => .error e
    | .ok t => setAll pairs t rest

/-- A field is set once it is read, from what pairs say or else from what it was. -/
theorem set_eq_map {α : Type} {read : Value → Except FieldFault α} {old : α}
    {change : α → ScanSettings} (kept : change old = s)
    (put : ∀ v, f.put s v = (read v).map change) :
    f.set pairs s = (readField pairs f.key read old).map change := by
  unfold set readField
  cases Value.find? (.str f.key) pairs with
  | some v => exact put v
  | none => exact congrArg Except.ok kept.symm

theorem set_ok (h : f.set pairs s = .ok t) : f.Given pairs s t ∧ ∀ g ≠ f, g.Same s t := by
  unfold set at h
  split at h
  · rename_i v given
    obtain ⟨reads, others⟩ := put_ok h
    exact ⟨⟨fun w again => Option.some.inj (given.symm.trans again) ▸ reads,
      fun none => absurd (given.symm.trans none) (by simp)⟩, others⟩
  · rename_i none
    cases h
    exact ⟨⟨fun w given => absurd (none.symm.trans given) (by simp), fun _ => .refl s f⟩,
      fun g _ => .refl s g⟩

theorem set_error (h : f.set pairs s = .error e) :
    ∃ v, Value.find? (.str f.key) pairs = some v ∧ f.Unfit v e := by
  unfold set at h
  split at h
  · rename_i v given
    exact ⟨v, given, put_error h⟩
  · cases h

theorem setAll_ok {fields : List ScanField} (h : setAll pairs s fields = .ok t)
    (once : fields.Nodup) :
    (∀ f ∈ fields, f.Given pairs s t) ∧ ∀ g ∉ fields, g.Same s t := by
  induction fields generalizing s with
  | nil =>
    cases h
    exact ⟨by simp, fun g _ => .refl _ g⟩
  | cons f rest ih =>
    rw [setAll] at h
    split at h
    · cases h
    rename_i u first
    obtain ⟨later, once⟩ := List.nodup_cons.mp once
    obtain ⟨given, others⟩ := set_ok first
    obtain ⟨all, kept⟩ := ih h once
    constructor
    · refine List.forall_mem_cons.mpr ⟨⟨fun v named => ?_, fun none => ?_⟩,
        fun g member => ⟨(all g member).reads, fun none => ?_⟩⟩
      · exact (given.reads v named).congr (kept f later)
      · exact (given.same none).trans (kept f later)
      · exact (others g (ne_of_mem_of_not_mem member later)).trans ((all g member).same none)
    · intro g apart
      obtain ⟨other, apart⟩ := not_or.mp (mt List.mem_cons.mpr apart)
      exact (others g other).trans (kept g apart)

/-- Where fields are not set, one has an unfit value, and those before it have none. -/
theorem setAll_error {fields : List ScanField} (h : setAll pairs s fields = .error e) :
    ∃ before f after v, fields = before ++ f :: after ∧
      (∀ g ∈ before, ∀ u, Value.find? (.str g.key) pairs = some u → ∃ t, g.Reads t u) ∧
      Value.find? (.str f.key) pairs = some v ∧ f.Unfit v e := by
  induction fields generalizing s with
  | nil => cases h
  | cons f rest ih =>
    rw [setAll] at h
    split at h
    · rename_i failed
      cases h
      obtain ⟨v, given, unfit⟩ := set_error failed
      exact ⟨[], f, rest, v, rfl, by simp, given, unfit⟩
    · rename_i u first
      obtain ⟨before, g, after, v, rfl, fit, given, unfit⟩ := ih h
      exact ⟨f :: before, g, after, v, rfl, List.forall_mem_cons.mpr
        ⟨fun w named => ⟨u, (set_ok first).1.reads w named⟩, fit⟩, given, unfit⟩

end ScanField

namespace ScanSettings

variable {pairs : List (Value × Value)}

/-- A section replaces its fields one after the other. -/
theorem replace_eq_setAll (s : ScanSettings) (pairs : List (Value × Value)) :
    s.replace pairs = ScanField.setAll pairs s ScanField.all := by
  have globs (s : ScanSettings) : ScanField.excludeGlobs.set pairs s =
      (readField pairs "exclude_globs" readGlobs s.excludeGlobs).map
        fun globs => { s with excludeGlobs := globs } := ScanField.set_eq_map rfl fun v => rfl
  have encoding (s : ScanSettings) : ScanField.encoding.set pairs s =
      (readField pairs "encoding" readEncoding s.encoding).map
        fun name => { s with encoding := name } := ScanField.set_eq_map rfl fun v => rfl
  have threshold (s : ScanSettings) : (ScanField.size .nulRunThreshold).set pairs s =
      (readField pairs "nul_run_threshold" (readSize .nulRunThreshold) s.nulRunThreshold).map
        fun n => { s with nulRunThreshold := n } := ScanField.set_eq_map rfl fun v => rfl
  have size (s : ScanSettings) : (ScanField.size .bufferSize).set pairs s =
      (readField pairs "buffer_size" (readSize .bufferSize) s.bufferSize).map
        fun n => { s with bufferSize := n } := ScanField.set_eq_map rfl fun v => rfl
  simp only [ScanSettings.replace, ScanField.all, ScanField.setAll, globs, encoding, threshold,
    size]
  -- No field looks at what another was set to.
  cases readField pairs "exclude_globs" readGlobs s.excludeGlobs with
  | error e => rfl
  | ok globs =>
    simp only [Except.map]
    cases readField pairs "encoding" readEncoding s.encoding with
    | error e => rfl
    | ok name =>
      simp only
      cases readField pairs "nul_run_threshold" (readSize .nulRunThreshold) s.nulRunThreshold with
      | error e => rfl
      | ok threshold =>
        simp only
        cases readField pairs "buffer_size" (readSize .bufferSize) s.bufferSize <;> rfl

/-- Settings come out as the values given say, or else one of these is unfit. -/
theorem replace_cases (s : ScanSettings) (pairs : List (Value × Value)) :
    (∃ t, s.replace pairs = .ok t ∧ ∀ f : ScanField, f.Given pairs s t) ∨
      ∃ before f after v fault, ScanField.all = before ++ f :: after ∧
        (∀ g ∈ before, ∀ u, Value.find? (.str g.key) pairs = some u → ∃ t, g.Reads t u) ∧
        Value.find? (.str f.key) pairs = some v ∧ f.Unfit v fault ∧
        s.replace pairs = .error fault := by
  rw [replace_eq_setAll]
  cases outcome : ScanField.setAll pairs s ScanField.all with
  | ok t =>
    have every (f : ScanField) : f ∈ ScanField.all := by
      cases f with
      | size which => cases which <;> decide
      | _ => decide
    exact .inl ⟨t, rfl, fun f => (ScanField.setAll_ok outcome (by decide)).1 f (every f)⟩
  | error fault =>
    obtain ⟨before, f, after, v, all, fit, given, unfit⟩ := ScanField.setAll_error outcome
    exact .inr ⟨before, f, after, v, fault, all, fit, given, unfit, rfl⟩

end ScanSettings

/-! ## Sections -/

/-- What is wrong with a value is wrong with the value alone, unless it is an infinite number in the
place of a size, or what is blamed is too deep to be shown. -/
theorem ScanField.Unfit.kind_ne_value_iff {f : ScanField} {v : Value} {fault : FieldFault}
    (h : f.Unfit v fault) :
    fault.kind ≠ .value ↔
      (v.isInfinite = true ∧ ∃ which, f = .size which) ∨
        ∃ blamed message, f.Blames v blamed message ∧
          blamed.display Runtime.shownDepth = .error .tooDeep := by
  cases h with
  | @blamed _ _ blamed message blames =>
    have finite : ¬ (v.isInfinite = true ∧ ∃ which, f = .size which) := by
      rintro ⟨infinite, which, rfl⟩
      cases blames with
      | sizeNotWhole finite => simp [infinite] at finite
    have deep : (∃ blamed message, f.Blames v blamed message ∧
        blamed.display Runtime.shownDepth = .error .tooDeep) ↔
          blamed.display Runtime.shownDepth = .error .tooDeep :=
      ⟨fun ⟨_, _, blames', deep⟩ => blames.unique blames' ▸ deep,
        fun deep => ⟨blamed, message, blames, deep⟩⟩
    rw [or_iff_right finite, deep, FieldFault.showing]
    cases blamed.display Runtime.shownDepth with
    | ok shown =>
      have value : (message shown).kind = .value := by cases blames <;> rfl
      simp [value]
    | error fault => cases fault <;> simp [FieldFault.kind, DisplayFault.kind]
  | @sizeNotPositive which _ n whole small =>
    refine iff_of_false (by simp [FieldFault.kind]) ?_
    rintro (⟨infinite, -⟩ | ⟨_, _, blames, -⟩)
    · simp [Value.toWhole?_of_isInfinite infinite] at whole
    · cases blames with
      | sizeNotWhole _ other => simp [other] at whole
  | @sizeInfinite which _ infinite =>
    exact iff_of_true (by simp [FieldFault.kind]) (.inl ⟨infinite, which, rfl⟩)

/-- A scan section with its own keys alone comes to valid settings that are as its values say, or
the first unfit one of these counts. What is wrong is then a wrong value, unless it is an infinite
number in the place of a size, or what is blamed is too deep to be shown. -/
theorem Settings.replaceScan_cases {s : Settings} (valid : s.scan.Valid)
    {pairs : List (Value × Value)} (keys : ∀ e ∈ pairs, ∃ f : ScanField, e.1 = .str f.key) :
    (∃ t, s.replaceScan (.dict [(.str "scan", .dict pairs)]) = .ok { s with scan := t } ∧
      t.Valid ∧ ∀ f : ScanField, f.Given pairs s.scan t) ∨
      ∃ before f after v fault, ScanField.all = before ++ f :: after ∧
        (∀ g ∈ before, ∀ u, Value.find? (.str g.key) pairs = some u → ∃ t, g.Reads t u) ∧
        Value.find? (.str f.key) pairs = some v ∧ f.Unfit v fault ∧ (∀ t, ¬ f.Reads t v) ∧
        s.replaceScan (.dict [(.str "scan", .dict pairs)]) = .error (.field fault) ∧
        (fault.kind ≠ .value ↔
          (v.isInfinite = true ∧ ∃ which, f = .size which) ∨
            ∃ blamed message, f.Blames v blamed message ∧
              blamed.display Runtime.shownDepth = .error .tooDeep) := by
  have found : Section.scan.find? (.dict [(.str "scan", .dict pairs)]) =
      .ok (some (.dict pairs)) := by
    simp [Section.find?, Value.opened, Value.find?, Value.sameKey, Section.key]
  have replaced : s.replaceScan (.dict [(.str "scan", .dict pairs)]) =
      ((s.scan.replace pairs).map fun t => { s with scan := t }).mapError .field := by
    simp only [Settings.replaceScan, found, Section.pairs_scan keys]
    cases s.scan.replace pairs <;> rfl
  rw [replaced]
  rcases s.scan.replace_cases pairs with
    ⟨t, made, given⟩ | ⟨before, f, after, v, fault, all, fit, given, unfit, failed⟩
  · exact .inl ⟨t, by rw [made]; rfl, valid.replace made, given⟩
  · exact .inr ⟨before, f, after, v, fault, all, fit, given, unfit, unfit.not_reads,
      by rw [failed]; rfl, unfit.kind_ne_value_iff⟩

end

namespace Settings

attribute [local instance] Yaml.runtime

/-- A section with a threshold that is a numeral. -/
theorem replaceScan_cases_numeral :
    ∃ t : ScanSettings, builtIn.replaceScan
        (.dict [(.str "scan", .dict [(.str "nul_run_threshold", .str "12")])]) =
        .ok { builtIn with scan := t } ∧ t.Valid ∧ t.nulRunThreshold = 12 := by
  have keys : ∀ e ∈ ([(.str "nul_run_threshold", .str "12")] : List (Value × Value)),
      ∃ f : ScanField, e.1 = .str f.key :=
    List.forall_mem_singleton.mpr ⟨.size .nulRunThreshold, rfl⟩
  have whole : Value.toWhole? (.str "12") = some 12 := by cbv
  rcases replaceScan_cases builtIn_valid keys with
    ⟨t, made, valid, given⟩ | ⟨before, f, after, v, fault, -, -, -, -, -, failed, -⟩
  · refine ⟨t, made, valid, ?_⟩
    have reads := (given (.size .nulRunThreshold)).reads (.str "12") rfl
    exact Option.some.inj (reads.1.symm.trans whole)
  · have made : builtIn.replaceScan
        (.dict [(.str "scan", .dict [(.str "nul_run_threshold", .str "12")])]) =
        .ok { builtIn with scan := { builtIn.scan with nulRunThreshold := 12 } } := by cbv
    cases made.symm.trans failed

/-- What is wrong with an infinite threshold is no wrong value. -/
theorem replaceScan_infiniteThreshold :
    builtIn.replaceScan (.dict [(.str "scan",
        .dict [(.str "nul_run_threshold", .float (.infinity true))])]) =
        .error (.field .sizeInfinite) ∧
      FieldFault.sizeInfinite.kind = .other "OverflowError" := ⟨rfl, rfl⟩

end Settings

end TabAudit
