import TabAudit.Proofs.Config.Fields
import TabAudit.Proofs.Config.Layers
import TabAudit.Proofs.Disk.Tree
import TabAudit.Proofs.Faults

/-!
# What a check is told

A check is told its settings by its options, by an environment, and by a file if it names one. What
is wrong with the file is caught, with four exceptions: a fault of a kind of its own in the library
that reads YAML, JSON with too many brackets within each other, an infinite size, and a value too
deep to be shown.
-/

namespace TabAudit

/-! ## Files that can be read -/

/-- What those are given who read a text: that of a file that can be read to its end and is UTF-8,
and nothing at all by what is neither a file nor a directory. -/
inductive Node.Gives : Node → String → Prop
  | file {content : List UInt8} {access : FileAccess} {text : List Char} {rest : List UInt8}
      (sound : access.failure? content.length = none)
      (decoded : Codec.utf8.decode true 0 content = .ok (text, rest)) :
      Gives (.file content access) (textAsRead (String.ofList text))
  | other {node : Node} (directory : node.isDirectory = false)
      (file : ∀ content access, node ≠ .file content access) : Gives node ""

/-- What those are given who read a text at a path. -/
def Disk.Gives (d : Disk) (p : Path) (text : String) : Prop :=
  ∃ found, d.findText .target (p.text '/') = .ok found ∧ found.node.Gives text

theorem DiskCause.isCaught_kind (cause : DiskCause) : cause.kind.isCaught = true := by
  cases cause <;> rfl

theorem DiskError.isCaught_kind (e : DiskError) : e.kind.isCaught = true := by
  cases e with
  | refused cause path => exact cause.isCaught_kind
  | embeddedNul => rfl

namespace Node

variable {node : Node} {shown text : String} {e : ConfigError}

theorem readText_eq_ok_iff : node.readText shown = .ok text ↔ node.Gives text := by
  cases node with
  | file content access =>
    constructor
    · intro h
      simp only [readText] at h
      split at h
      · cases h
      · cases h
      · rename_i sound
        split at h
        · cases h
        · rename_i decoded
          exact Except.ok.inj h ▸ .file sound decoded
    · intro gives
      cases gives with
      | file sound decoded => simp only [readText, sound, decoded]
      | other directory file => exact absurd rfl (file content access)
  | directory refusal entries =>
    refine iff_of_false (by simp [readText]) fun gives => ?_
    cases gives with
    | other directory => cases directory
  | _ => exact ⟨fun same => Except.ok.inj same ▸ .other rfl (by simp), by rintro ⟨⟩; rfl⟩

theorem isCaught_of_readText (h : node.readText shown = .error e) : e.kind.isCaught = true := by
  unfold readText at h
  split at h
  · split at h
    · rename_i cause failure
      cases h
      exact cause.isCaught_kind
    · rename_i cause failure
      cases h
      exact cause.isCaught_kind
    · split at h
      · rename_i fault failed
        cases h
        have kind : fault.kind = .undecodable := Codec.kind_of_decode failed
        rw [ConfigError.kind, kind]
        rfl
      · cases h
  · cases h
    rfl
  · cases h

end Node

namespace Disk

variable {d : Disk} {p : Path} {text : String} {e : ConfigError}

theorem readText_eq_ok_iff : d.readText p = .ok text ↔ d.Gives p text := by
  unfold readText Gives
  constructor
  · intro h
    split at h
    · cases h
    · cases h
    · rename_i found located
      exact ⟨found, ifThere_eq_some.mp located, Node.readText_eq_ok_iff.mp h⟩
  · rintro ⟨found, there, gives⟩
    have located : d.locate? p = .ok (some found) := ifThere_eq_some.mpr there
    rw [located]
    exact Node.readText_eq_ok_iff.mpr gives

/-- What is wrong with a text that cannot be read is caught. -/
theorem isCaught_of_readText (h : d.readText p = .error e) : e.kind.isCaught = true := by
  unfold readText at h
  split at h
  · rename_i e' failed
    cases h
    exact e'.isCaught_kind
  · cases h
    rfl
  · exact Node.isCaught_of_readText h

end Disk

/-! ## Sections -/

/-- What is wrong with a scan section is wrong with its shape or with a value in it. -/
theorem Settings.replaceScan_error [Runtime] {s : Settings} {v : Value} {e : ConfigError}
    (h : s.replaceScan v = .error e) :
    (∃ fault, e = .sections fault) ∨
      ∃ pairs, Section.scan.Holds v pairs ∧ ∃ (f : ScanField) (w : Value) (fault : FieldFault),
        Value.find? (.str f.key) pairs = some w ∧ f.Unfit w fault ∧ e = .field fault := by
  unfold Settings.replaceScan at h
  split at h
  · cases h
    exact .inl ⟨_, rfl⟩
  · cases h
  · rename_i inner found
    split at h
    · cases h
      exact .inl ⟨_, rfl⟩
    rename_i pairs given
    split at h
    · rename_i fault failed
      cases h
      obtain ⟨top, mapping, found⟩ := Section.find?_eq_some_iff.mp found
      obtain ⟨opened, named⟩ := Section.pairs_eq_ok_iff.mp given
      refine .inr ⟨pairs, .present mapping found opened named, ?_⟩
      rcases s.scan.replace_cases pairs with ⟨t, made, -⟩ | ⟨_, f, _, w, _, -, -, there, why, same⟩
      · cases made.symm.trans failed
      · cases same.symm.trans failed
        exact ⟨f, w, _, there, why, rfl⟩
    · cases h

theorem Settings.replaceLogging_error {s : Settings} {v : Value} {e : ConfigError}
    (h : s.replaceLogging v = .error e) :
    ∃ fault, e = .sections fault := by
  unfold Settings.replaceLogging at h
  split at h
  · cases h
    exact ⟨_, rfl⟩
  · cases h
  · split at h
    · cases h
      exact ⟨_, rfl⟩
    · cases h

/-! ## Settings -/

namespace CheckRequest

variable [Runtime] {r : CheckRequest} {d : Disk} {env : Environment} {s : Settings} {v : Value}

/-- Whether a text is that of the file that a command line names, in the format that its suffix
tells. -/
def FileText (r : CheckRequest) (d : Disk) (format : ConfigFormat) (text : String) : Prop :=
  ∃ path, r.config = some path ∧ d.Gives (Path.read path) text ∧
    ConfigFormat.ofSuffix? (Path.read path).suffix = some format

/-- The value of the file that a command line names. Without a file there is an empty mapping. -/
inductive FileHolds (r : CheckRequest) (d : Disk) : Value → Prop
  | nothing (none : r.config = none) : FileHolds r d (.dict [])
  | file {format : ConfigFormat} {text : String} {v : Value} (given : r.FileText d format text)
      (read : format.read text = .ok v) : FileHolds r d v

/-- The settings that a check is told: those of its options over those of the environment, of its
file, and the built-in ones. -/
def Told (r : CheckRequest) (d : Disk) (env : Environment) (s : Settings) : Prop :=
  ∃ v file environment, r.FileHolds d v ∧ v.Says file ∧ env.Says environment ∧
    s = (Layer.settings [environment, file] .builtIn).extend r

theorem fileValue_eq_ok_iff : r.fileValue d = .ok v ↔ r.FileHolds d v := by
  unfold fileValue Disk.readConfig
  constructor
  · intro h
    split at h
    · rename_i nothing
      cases h
      exact .nothing nothing
    · rename_i path named
      split at h
      · cases h
      rename_i text gives
      split at h
      · cases h
      rename_i format suffix
      exact .file ⟨path, named, Disk.readText_eq_ok_iff.mp gives, suffix⟩ h
  · intro holds
    cases holds with
    | nothing none => rw [none]
    | file given read =>
      obtain ⟨path, named, gives, suffix⟩ := given
      simp only [named, Disk.readText_eq_ok_iff.mpr gives, suffix, read]

theorem told_iff : r.settings d env = .ok s ↔ r.Told d env s := by
  rw [settings_stages]
  refine exists_congr fun v => exists_congr fun file => exists_congr fun environment => ?_
  rw [fileValue_eq_ok_iff, ← Layer.settings_cons environment [file]]

/-! ## What is not caught -/

/-- Whether nothing is wrong with the file of settings that is not caught: what the library finds
wrong with YAML is of a kind that is; JSON has not too many brackets within each other; and in the
scan section no size is infinite, and no value that is blamed is too deep to be shown. -/
structure FileForeseen (r : CheckRequest) (d : Disk) : Prop where
  yaml : ∀ text fault, r.FileText d .yaml text → Runtime.loadYaml text = .error fault →
    fault.kind.isCaught = true
  json : ∀ text bracket, r.FileText d .json text → Json.read text ≠ .error (.tooDeep bracket)
  sizes : ∀ v pairs which w, r.FileHolds d v → Section.scan.Holds v pairs →
    Value.find? (.str (ScanField.size which).key) pairs = some w → w.isInfinite = false
  shown : ∀ v pairs (f : ScanField) w blamed message, r.FileHolds d v →
    Section.scan.Holds v pairs → Value.find? (.str f.key) pairs = some w →
    f.Blames w blamed message → blamed.display Runtime.shownDepth ≠ .error .tooDeep

variable {e : ConfigError}

/-- A file whose text has no value is wrong in a way that is caught, or its text is. -/
theorem readConfig_error {path : String} (named : r.config = some path)
    (h : d.readConfig (Path.read path) = .error e) :
    e.kind.isCaught = true ∨
      ∃ format text, r.FileText d format text ∧ format.read text = .error e := by
  unfold Disk.readConfig at h
  split at h
  · rename_i e' failed
    cases h
    exact .inl (Disk.isCaught_of_readText failed)
  rename_i text gives
  split at h
  · cases h
    exact .inl rfl
  · rename_i format suffix
    exact .inr ⟨format, text, ⟨path, named, Disk.readText_eq_ok_iff.mp gives, suffix⟩, h⟩

namespace FileForeseen

variable (foreseen : r.FileForeseen d)

include foreseen

theorem isCaught_of_text {format : ConfigFormat} {text : String}
    (given : r.FileText d format text) (h : format.read text = .error e) :
    e.kind.isCaught = true := by
  cases format with
  | yaml =>
    simp only [ConfigFormat.read] at h
    split at h
    · rename_i fault failed
      cases h
      exact foreseen.yaml text fault given failed
    · cases h
  | json =>
    simp only [ConfigFormat.read] at h
    split at h
    · cases h
    split at h
    · rename_i fault failed
      cases h
      cases fault with
      | tooDeep bracket => exact absurd failed (foreseen.json text bracket given)
      | _ => rfl
    · cases h

theorem isCaught_of_value {s : Settings} (holds : r.FileHolds d v) (h : s.replace v = .error e) :
    e.kind.isCaught = true := by
  unfold Settings.replace at h
  split at h
  · rename_i e' failed
    cases h
    rcases Settings.replaceScan_error failed with
      ⟨fault, rfl⟩ | ⟨pairs, given, f, w, fault, there, unfit, rfl⟩
    · rfl
    have value : fault.kind = .value := by
      by_contra other
      rcases unfit.kind_ne_value_iff.mp other with ⟨infinite, which, rfl⟩ | ⟨_, _, blames, deep⟩
      · simp [foreseen.sizes v pairs which w holds given there] at infinite
      · exact foreseen.shown v pairs f w _ _ holds given there blames deep
    rw [ConfigError.kind, value]
    rfl
  · obtain ⟨fault, rfl⟩ := Settings.replaceLogging_error h
    rfl

/-- Whatever is wrong with what a check is told, it is caught. -/
theorem isCaught (h : r.settings d env = .error e) : e.kind.isCaught = true := by
  rw [r.settings_eq] at h
  split at h
  · rename_i e' failed
    cases h
    unfold Settings.before Settings.ofFile at failed
    split at failed
    · cases failed
    rename_i path named
    split at failed
    · rename_i unread
      cases failed
      rcases readConfig_error named unread with caught | ⟨format, text, given, wrong⟩
      · exact caught
      · exact foreseen.isCaught_of_text given wrong
    · rename_i v read
      have holds : r.FileHolds d v := by
        rw [← fileValue_eq_ok_iff, fileValue, named]
        exact read
      exact foreseen.isCaught_of_value holds failed
  · split at h
    · cases h
      rfl
    · cases h

end FileForeseen

end CheckRequest

end TabAudit
