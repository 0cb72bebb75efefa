import Mathlib
import TabAudit.Proofs.Config.Validity
import TabAudit.Proofs.Disk.Written
import TabAudit.Proofs.Json.RoundTrip
import TabAudit.Proofs.Yaml.Ascii

/-!
# Saving settings and reading them back

Settings that hold texts of characters and sizes that can be shown are the same after they have been
saved to a file and read from it, whatever the defaults are. For JSON this follows from the text
that is written; for YAML it is up to the library to read the mapping that it wrote.
-/

namespace TabAudit

/-- A text of characters, without halves of surrogate pairs. -/
def Text.IsWhole (t : Text) : Prop := ∃ s : List Char, t = .ofChars s

theorem Text.isWhole_ofString (s : String) : Text.IsWhole s := ⟨s.toList, rfl⟩

namespace Settings

/-- Settings that can be written down: they are valid, their texts are of characters, and their
sizes have no more digits than can be shown. -/
structure Writable (s : Settings) : Prop where
  valid : s.scan.Valid
  globs : ∀ glob ∈ s.scan.excludeGlobs, glob.IsWhole
  encoding : ∀ name ∈ s.scan.encoding, name.IsWhole
  sizes : ∀ size, (s.scan.size size).natAbs < Nat.pow 10 shownDigits
  level : ∃ t : Text, s.logging.level = .str t ∧ t.IsWhole
  format : ∃ t : Text, s.logging.format = .str t ∧ t.IsWhole

variable {s base : Settings}

/-! ## As values -/

theorem Writable.copied (h : s.Writable) : s.copied = s := by
  obtain ⟨scan, level, format⟩ := s
  obtain ⟨t, rfl, -⟩ := h.level
  obtain ⟨u, rfl, -⟩ := h.format
  rfl

theorem Writable.value? (h : s.Writable) : s.value? = some s.toValue := by
  obtain ⟨t, level, -⟩ := h.level
  obtain ⟨u, format, -⟩ := h.format
  unfold Settings.value?
  rw [h.copied, level, format]
  rfl

theorem simple_globs {globs : List Text} (whole : ∀ glob ∈ globs, glob.IsWhole) :
    Json.Simple 1 (.list (globs.map .str)) := by
  refine .list fun v member => ?_
  obtain ⟨glob, inside, rfl⟩ := List.mem_map.mp member
  obtain ⟨s, rfl⟩ := whole glob inside
  exact .str s

theorem simple_encoding {encoding : Option Text} (whole : ∀ name ∈ encoding, name.IsWhole) :
    Json.Simple 1 ((encoding.map .str).getD .null) := by
  cases encoding with
  | none => exact .null
  | some name =>
    obtain ⟨s, rfl⟩ := whole name rfl
    exact .str s

/-- A mapping of fields that have names of their own is simple if their values are. -/
theorem simple_fields {k : Nat} (fields : List (String × Value))
    (distinct : (fields.map Prod.fst).Nodup) (each : ∀ e ∈ fields, Json.Simple k e.2) :
    Json.Simple (k + 1) (.dict (fields.map fun e => (.str e.1, e.2))) := by
  refine .dict ?_ ?_ ?_
  · intro e member
    obtain ⟨field, -, rfl⟩ := List.mem_map.mp member
    exact ⟨field.1.toList, rfl⟩
  · refine List.pairwise_map.mpr ((List.pairwise_map.mp distinct).imp fun {a b} differ => ?_)
    exact decide_eq_false fun same => differ (Text.ofString_injective same)
  · intro e member
    obtain ⟨field, inside, rfl⟩ := List.mem_map.mp member
    exact each field inside

/-- Settings that can be written down are a simple value. -/
theorem Writable.simple (h : s.Writable) : Json.Simple 3 s.toValue := by
  obtain ⟨_, level, ⟨t, rfl⟩⟩ := h.level
  obtain ⟨_, format, ⟨u, rfl⟩⟩ := h.format
  have scan : Json.Simple 2 (.dict s.scan.toPairs) := by
    refine simple_fields [("exclude_globs", _), ("encoding", _), ("nul_run_threshold", _),
      ("buffer_size", _)] (by simp) ?_
    simp only [List.forall_mem_cons]
    exact ⟨simple_globs h.globs, simple_encoding h.encoding, .int (h.sizes .nulRunThreshold),
      .int (h.sizes .bufferSize), by simp⟩
  have logging : Json.Simple 2 (.dict s.logging.toPairs) := by
    refine simple_fields [("level", _), ("format", _)] (by simp) ?_
    simp only [List.forall_mem_cons, level, format]
    exact ⟨.str t, .str u, by simp⟩
  refine simple_fields [("scan", _), ("logging", _)] (by simp) ?_
  simp only [List.forall_mem_cons]
  exact ⟨scan, logging, by simp⟩

/-! ## Over defaults -/

/-- Valid settings replace all others. -/
theorem replace_toValue [Runtime] (valid : s.scan.Valid) : base.replace s.toValue = .ok s := by
  have found : Section.scan.find? s.toValue = .ok (some (.dict s.scan.toPairs)) := rfl
  have pairs : Section.scan.pairs (.dict s.scan.toPairs) = .ok s.scan.toPairs := rfl
  have scan : base.replaceScan s.toValue = .ok { base with scan := s.scan } := by
    simp only [replaceScan, found, pairs, (ScanSettings.replace_toPairs_iff base.scan).mpr valid]
  unfold Settings.replace
  rw [scan]
  rfl

/-! ## In files -/

theorem isEmpty_trimBlanks {c : Char} (h : isBlank c = false) (rest : List Char) :
    (trimBlanks (c :: rest)).isEmpty = false := by
  rw [trimBlanks, List.dropWhile_cons_of_neg (by simp [h]), dropWhileEnd, List.isEmpty_reverse,
    List.isEmpty_eq_false_iff, Ne, List.dropWhile_eq_nil_iff]
  exact fun blank => by simpa [h] using blank c (by simp)

theorem isBlank_of_opens {c : Char} (opens : Json.Opens c) (printable : IsPrintable c) :
    isBlank c = false := by
  rcases printable with rfl | ⟨low, high⟩
  · exact absurd opens (by decide)
  · have space : c.toNat ≠ 32 := fun same => by
      have : c = ' ' := by rw [← Char.ofNat_toNat c, same]
      subst this
      exact absurd opens (by decide)
    simp only [isBlank, Bool.or_eq_false_iff, Bool.and_eq_false_iff, decide_eq_false_iff_not,
      beq_eq_false_iff_ne]
    omega

variable {d d' d₀ : Disk} {p : Path} {format : ConfigFormat} {defaults : Defaults}

/-- Whether the library writes settings in printable ASCII, and reads what it wrote. -/
def YamlRoundTrip [Runtime] (s : Settings) : Prop :=
  ∃ text, Runtime.dumpYaml s.toPairs = .ok text ∧ Printable text.toList ∧
    Runtime.loadYaml text = .ok s.toValue

/-- Settings have a text of printable ASCII, and what is read from it is their mapping. -/
theorem Writable.read_write [Runtime] (h : s.Writable) (yaml : format = .yaml → s.YamlRoundTrip) :
    ∃ text, s.write format = .ok (String.ofList text) ∧ Printable text ∧
      format.read (String.ofList text) = .ok s.toValue := by
  cases format with
  | json =>
    obtain ⟨text, written, printable, ⟨c, rest, starts, opens⟩, read⟩ :=
      h.simple.read_write (by decide)
    refine ⟨text, ?_, printable, ?_⟩
    · simp only [write, h.value?, written]
      rfl
    · -- A text of blanks alone would be read as an empty mapping.
      have blank := isBlank_of_opens opens (printable_cons.mp (starts ▸ printable)).1
      have filled : (trimBlanks text).isEmpty = false := by
        rw [starts]
        exact isEmpty_trimBlanks blank rest
      rw [ConfigFormat.read, String.toList_ofList, filled, read]
      rfl
  | yaml =>
    obtain ⟨text, dumped, printable, loaded⟩ := yaml rfl
    refine ⟨text.toList, ?_, printable, ?_⟩
    · simp only [write, h.value?, h.copied, dumped, String.ofList_toList]
      rfl
    · rw [String.ofList_toList, ConfigFormat.read, loaded]
      rfl

/-- A text of printable ASCII that was written to a file is what is read from it. -/
theorem readText_written (stands : d.Stands) {text : List Char} (printable : Printable text)
    (h : d.writeFile p (.file (String.ofList text).toUTF8.toList .sound) = .ok d') :
    d'.readText p = .ok (String.ofList text) := by
  obtain ⟨names, found⟩ := Disk.locate?_writeFile stands rfl h
  rw [Disk.readText, found]
  simp only [Node.readText, FileAccess.failure?, printable.decode, printable.textAsRead]

/-- Settings that can be written down are read from a file as they were saved to it: in JSON always,
and in YAML if the library reads the mapping that it wrote. All that it takes is that the defaults
can be used and that there is room for a file at the path. -/
theorem ofFile_save [Runtime] (writable : s.Writable)
    (suffix : ConfigFormat.ofSuffix? p.suffix = some format)
    (yaml : format = .yaml → s.YamlRoundTrip) (given : defaults.settings.1 = .ok base)
    (stands : d.Stands) (room : d.place p .blank = .ok d₀) :
    ∃ d' text, s.save d p = .ok (d', text) ∧ Printable text.toList ∧
      (ofFile d' defaults p).1 = .ok s := by
  obtain ⟨text, written, printable, read⟩ := writable.read_write yaml
  obtain ⟨d₁, d', made, filed⟩ := Disk.writeFile_of_place room
    (.file (String.ofList text).toUTF8.toList .sound)
  -- The directories that are made first leave the current directory where it is.
  have again := readText_written (Disk.makeDirectories_stands stands made) printable filed
  refine ⟨d', String.ofList text, ?_, by rwa [String.toList_ofList], ?_⟩
  · simp only [save, suffix, written, made, filed]
  · simp only [ofFile, Disk.readConfig, again, suffix, read, ofValue]
    split
    · rename_i failed
      rw [failed] at given
      cases given
    · rename_i found
      exact replace_toValue writable.valid

attribute [local instance] Yaml.runtime

/-- YAML is always written here, and in printable ASCII, so all that counts is what is read. -/
theorem Writable.yamlRoundTrip_iff (h : s.Writable) :
    s.YamlRoundTrip ↔ Yaml.read (Yaml.write s.toPairs) = .ok s.toValue := by
  have simple : Json.Simple 3 (.dict s.toPairs) := h.simple
  have showable : Value.pairsAreShowable s.toPairs = true := simple.isShowable
  have shallow : ((Value.dict s.toPairs).depth?.any (Yaml.writtenDepth < ·)) = false := by
    obtain ⟨n, small, depth⟩ := simple.depth?_le
    rw [depth]
    exact decide_eq_false (by unfold Yaml.writtenDepth; omega)
  have dumped : Yaml.dump s.toPairs = .ok (Yaml.write s.toPairs) := by
    rw [Yaml.dump, if_neg (by simp [showable])]
    exact if_neg (by simp [shallow])
  have loaded (text : String) :
      Runtime.loadYaml text = .ok s.toValue ↔ Yaml.read text = .ok s.toValue := by
    change (Yaml.read text).mapError Yaml.Fault.seen = _ ↔ _
    cases Yaml.read text <;> simp [Except.mapError]
  constructor
  · rintro ⟨text, written, -, read⟩
    obtain rfl : Yaml.write s.toPairs = text := Except.ok.inj (dumped.symm.trans written)
    exact (loaded _).mp read
  · exact fun read => ⟨_, dumped, Yaml.write_printable _, (loaded _).mpr read⟩

/-- Settings with texts that have to be escaped. -/
def wideSettings : Settings where
  scan := { excludeGlobs := ["\"é😀"], encoding := none, nulRunThreshold := 1, bufferSize := 16 }
  logging := { level := .str "WARN", format := .str "\n" }

theorem lt_pow_of_lt {a b n : Nat} (h : n < Nat.pow 10 a) (more : a ≤ b) : n < Nat.pow 10 b :=
  h.trans_le (Nat.pow_le_pow_right (by decide) more)

theorem wideSettings_writable : wideSettings.Writable where
  valid := by decide
  globs := by simp [wideSettings, Text.isWhole_ofString]
  encoding := by simp [wideSettings]
  sizes size :=
    lt_pow_of_lt (show (wideSettings.scan.size size).natAbs < Nat.pow 10 2 by
      cases size <;> decide) (by decide)
  level := ⟨_, rfl, Text.isWhole_ofString _⟩
  format := ⟨_, rfl, Text.isWhole_ofString _⟩

/-- On an empty disk there is room for files. -/
theorem place_bareDisk {name : String} (h : name ∈ ["c.json", "c.yml"]) :
    ∃ d, bareDisk.place ⟨"", "/", [name]⟩ .blank = .ok d := by
  have made : bareDisk.makeDirectories ⟨"", "/", []⟩ = .ok bareDisk := by cbv
  have walked : Disk.walk .empty .file Disk.linkLimit [] [name] = .ok ⟨[name], .blank⟩ := by
    rcases List.mem_pair.mp h with rfl | rfl <;> cbv
  have found : bareDisk.findText .file (Path.text '/' ⟨"", "/", [name]⟩) =
      .ok ⟨[name], .blank⟩ := by
    refine Disk.findText_eq_ok.mpr ?_
    rcases List.mem_pair.mp h with rfl | rfl
    · have text : Path.text '/' ⟨"", "/", ["c.json"]⟩ = "/c.json" := by decide
      have steps : Disk.textSteps "/c.json" = ["c.json"] := by decide
      rw [text, steps]
      exact ⟨by decide, by decide, by decide, walked⟩
    · have text : Path.text '/' ⟨"", "/", ["c.yml"]⟩ = "/c.yml" := by decide
      have steps : Disk.textSteps "/c.yml" = ["c.yml"] := by decide
      rw [text, steps]
      exact ⟨by decide, by decide, by decide, walked⟩
  exact ⟨_, Disk.place_blank_eq_ok.mpr ⟨_, made, Disk.writeFile_eq_ok.mpr ⟨_, found, rfl, rfl⟩⟩⟩

/-- Those settings in YAML. -/
def wideText : String :=
  "scan:\n  exclude_globs:\n  - \"\\\"\\xE9\\U0001F600\"\n  encoding: null\n" ++
  "  nul_run_threshold: 1\n  buffer_size: 16\nlogging:\n  level: WARN\n  format: '\n\n    '\n"

set_option maxRecDepth 4000 in
theorem write_wideSettings : Yaml.write wideSettings.toPairs = wideText := by cbv

theorem read_wideText : Yaml.read wideText = .ok wideSettings.toValue := by cbv

theorem wideSettings_yamlRoundTrip : wideSettings.YamlRoundTrip := by
  rw [wideSettings_writable.yamlRoundTrip_iff, write_wideSettings]
  exact read_wideText

/-- Settings that are read back from files in both formats. -/
theorem ofFile_save_wide :
    (∃ d' text, wideSettings.save bareDisk ⟨"", "/", ["c.json"]⟩ = .ok (d', text) ∧
      Printable text.toList ∧ (ofFile d' .builtIn ⟨"", "/", ["c.json"]⟩).1 = .ok wideSettings) ∧
    ∃ d' text, wideSettings.save bareDisk ⟨"", "/", ["c.yml"]⟩ = .ok (d', text) ∧
      Printable text.toList ∧ (ofFile d' .builtIn ⟨"", "/", ["c.yml"]⟩).1 = .ok wideSettings := by
  have stands : bareDisk.Stands := ⟨.empty, rfl, rfl⟩
  have yaml := wideSettings_yamlRoundTrip
  have inJson : ConfigFormat.ofSuffix? (Path.suffix ⟨"", "/", ["c.json"]⟩) = some .json := by cbv
  have inYaml : ConfigFormat.ofSuffix? (Path.suffix ⟨"", "/", ["c.yml"]⟩) = some .yaml := by cbv
  obtain ⟨_, room⟩ := place_bareDisk (show "c.json" ∈ ["c.json", "c.yml"] by decide)
  obtain ⟨_, room'⟩ := place_bareDisk (show "c.yml" ∈ ["c.json", "c.yml"] by decide)
  exact ⟨ofFile_save wideSettings_writable inJson (fun _ => yaml) rfl stands room,
    ofFile_save wideSettings_writable inYaml (fun _ => yaml) rfl stands room'⟩

end Settings

end TabAudit
