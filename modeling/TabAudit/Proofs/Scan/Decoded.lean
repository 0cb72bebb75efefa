import TabAudit.Proofs.Bytes.Refusal
import TabAudit.Proofs.Faults
import TabAudit.Proofs.Position.Pieces

/-!
# Files that are decoded

The check of a file comes to a list just if the file can be read to its end, holds no run of zeros
and is text in the encoding; the list is then that of the tabs of the text. What is said of a file
follows from that.
-/

namespace TabAudit

namespace Checker

variable {way : StreamDecoder} {source : Source} {text : String}

/-! ## Lists -/

/-- A source that fails in the end lets no check come to a list. -/
theorem checkFrom_fails {blockSize : Int} {r : NulReader} (fails : r.source.Fails text)
    (d : way.State) (t : Tracker) (tabs out : List Position) :
    (checkFrom way blockSize r d t tabs).1 ≠ .ok out := by
  fun_induction checkFrom way blockSize r d t tabs with
  | case1 r d t tabs e r₁ read => simp
  | case2 r d t tabs r₁ read e failed => simp
  | case3 r d t tabs r₁ read text d₁ fed =>
    exact absurd rfl (NulReader.readBlock_fails fails read).1
  | case4 r d t tabs b bs r₁ read e failed => simp
  | case5 r d t tabs b bs r₁ read text d₁ fed ih =>
    exact ih (NulReader.readBlock_fails fails read).2

/-- Whether a check can begin: its sizes are those of a reader that can be made. -/
structure Begins (c : Checker) : Prop where
  threshold : 1 ≤ c.threshold
  size : 1 ≤ c.bufferSize
  fits : memoryFault? c.bufferSize.toNat = none

/-- A check that cannot begin says so. -/
theorem check_not_begins {c : Checker} (stuck : ¬ c.Begins) (source : Source) :
    ∃ e, (c.check source).1 = .error (.opening e) := by
  rw [check, checkWith]
  cases opened : NulReader.open (some source) c.threshold c.bufferSize with
  | error e => exact ⟨e, rfl⟩
  | ok r =>
    obtain ⟨-, -, threshold, size, fits⟩ := NulReader.open_eq_ok opened
    exact absurd ⟨threshold, size, fits⟩ stuck

theorem check_fails {c : Checker} (fails : source.Fails text) (out : List Position) :
    (c.check source).1 ≠ .ok out := by
  by_cases begins : c.Begins
  · have threshold := begins.threshold
    have size := begins.size
    have opened := Session.open_eq source (show 1 ≤ c.threshold.toNat by omega)
      (show 1 ≤ c.bufferSize.toNat by omega)
    rw [begins.fits] at opened
    rw [c.check_eq threshold size, checkWith, opened]
    exact checkFrom_fails fails _ _ _ _
  · obtain ⟨e, failed⟩ := check_not_begins begins source
    simp [failed]

variable {c : Checker} {shown path : String} {content : List UInt8} {access : FileAccess}

/-- The check of a file that comes to a list could begin, and the file can be read to its end. -/
theorem begins_of_checkNode {tabs : List Position}
    (checked : (c.checkNode shown (.file content access)).1 = .ok tabs) :
    c.Begins ∧ access.ReadsAll content.length := by
  have opened : ∀ cause, access ≠ .closed cause := by
    rintro cause rfl
    cases checked
  rw [checkNode_opened opened] at checked
  constructor
  · by_contra stuck
    obtain ⟨e, failed⟩ := check_not_begins stuck (Node.source content access)
    simp [failed, Except.mapError] at checked
  · by_contra short
    have fails := FileAccess.fails_of_not_readsAll short opened
    cases listed : (c.check (Node.source content access)).1 with
    | error e => simp [listed, Except.mapError] at checked
    | ok tabs' => exact check_fails fails tabs' listed

/-- The check of a file comes to a list just if it can begin, the file can be read to its end, and
its content has no run of zeros and is decoded in some pieces; the list is that of the tabs of the
text. -/
theorem checkNode_pieces_iff (c : Checker) (shown : String) (content : List UInt8)
    (access : FileAccess) :
    ∃ pieces, pieces.flatten = content ∧ ∀ tabs,
      (c.checkNode shown (.file content access)).1 = .ok tabs ↔
        c.Begins ∧ access.ReadsAll content.length ∧
          (∀ k, ¬ ZeroRunAt c.threshold.toNat content k) ∧
          ∃ text, c.encoding.stream.decode pieces = .ok text ∧ tabs = tabsOf text := by
  by_cases able : c.Begins ∧ access.ReadsAll content.length
  · obtain ⟨begins, reads⟩ := able
    obtain ⟨pieces, whole, each⟩ :=
      check_file_pieces_iff c begins.threshold begins.size begins.fits content
    refine ⟨pieces, whole, fun tabs => ?_⟩
    rw [and_iff_right begins, and_iff_right reads, ← each, checkNode_opened reads.source_eq.2,
      reads.source_eq.1]
    cases (c.check (Node.source content .sound)).1 <;> simp [Except.mapError]
  · refine ⟨[content], List.flatten_singleton, fun tabs => ?_⟩
    exact iff_of_false (fun checked => able (begins_of_checkNode checked)) fun all =>
      able ⟨all.1, all.2.1⟩

/-- Where the pieces make no difference, they are those of the whole content. -/
theorem checkNode_ok_iff (invariant : c.encoding.stream.ChunkInvariant) {tabs : List Position} :
    (c.checkNode shown (.file content access)).1 = .ok tabs ↔
      c.Begins ∧ access.ReadsAll content.length ∧
        (∀ k, ¬ ZeroRunAt c.threshold.toNat content k) ∧
        ∃ text, c.encoding.stream.whole content = some text ∧ tabs = tabsOf text := by
  obtain ⟨pieces, whole, each⟩ := checkNode_pieces_iff c shown content access
  simp only [each, invariant.decode_eq_ok_iff, whole]

/-! ## What is said of a file -/

/-- The result for a file, by how its check ended. -/
theorem checkFile_cases {node : Node} {file : CheckedFile}
    (h : (c.checkFile shown path node).1 = .ok file) :
    (∃ tabs, (c.checkNode shown node).1 = .ok tabs ∧
      file = ⟨path, if tabs.isEmpty then .clean else .tabsFound, tabs⟩) ∨
    ∃ fault status record, (c.checkNode shown node).1 = .error fault ∧
      fault.settled? c.encodingName shown path = some (status, record) ∧
      file = ⟨path, status, []⟩ := by
  cases checked : (c.checkNode shown node).1 with
  | ok tabs =>
    rw [checkFile_of_ok checked] at h
    cases h
    exact .inl ⟨tabs, rfl, rfl⟩
  | error fault =>
    rw [checkFile_of_error checked] at h
    split at h
    · rename_i status record settled
      cases h
      exact .inr ⟨fault, status, record, rfl, settled, rfl⟩
    · cases h

end Checker

/-- Whether a status is that of a file that was decoded. -/
def FileStatus.Decoded (status : FileStatus) : Prop := status = .clean ∨ status = .tabsFound

theorem FileFault.not_decoded_of_settled {f : FileFault} {encoding shown path : String}
    {status : FileStatus} {record : LogRecord}
    (h : f.settled? encoding shown path = some (status, record)) : ¬ status.Decoded := by
  unfold FileStatus.Decoded
  unfold settled? at h
  split at h
  case h_2 fault => cases kind : fault.kind <;> simp_all [eq_comm]
  all_goals simp_all [eq_comm]

/-- Whether the status of a file tells whether it has tabs. -/
def CheckedFile.Told (file : CheckedFile) : Prop := file.status = .tabsFound ↔ file.tabs ≠ []

theorem Checker.told_checkFile {c : Checker} {shown path : String} {node : Node}
    {file : CheckedFile} (h : (c.checkFile shown path node).1 = .ok file) : file.Told := by
  rcases checkFile_cases h with ⟨tabs, -, rfl⟩ | ⟨fault, status, record, -, settled, rfl⟩
  · cases tabs <;> simp [CheckedFile.Told]
  · have undecoded := FileFault.not_decoded_of_settled settled
    exact iff_of_false (fun found => undecoded (.inr found)) (by simp)

/-- What the result for a file says of it, if its content is decoded in some pieces. The status
tells whether there are tabs, and the tabs come in their order. The file was decoded just if it can
be read to its end, has no run of zeros and is text in the encoding, and then each tab of the text
has its place in the result. -/
structure CheckedFile.Describes (file : CheckedFile) (c : Checker) (access : FileAccess)
    (pieces : List (List UInt8)) : Prop where
  told : file.Told
  ordered : file.tabs.Pairwise Position.Before
  decoded : file.status.Decoded ↔ access.ReadsAll pieces.flatten.length ∧
    (∀ k, ¬ ZeroRunAt c.threshold.toNat pieces.flatten k) ∧
    ∃ text, c.encoding.stream.decode pieces = .ok text
  places : file.status.Decoded → ∀ text, c.encoding.stream.decode pieces = .ok text →
    file.tabs = tabPlaces text ∧ file.tabs.length = text.count '	'

/-- Where the pieces make no difference, any others will do. -/
theorem CheckedFile.Describes.recut {file : CheckedFile} {c : Checker} {access : FileAccess}
    {pieces other : List (List UInt8)} (h : file.Describes c access pieces)
    (invariant : c.encoding.stream.ChunkInvariant) (same : other.flatten = pieces.flatten) :
    file.Describes c access other := by
  have decodes (text : List Char) : c.encoding.stream.decode other = .ok text ↔
      c.encoding.stream.decode pieces = .ok text := by
    rw [invariant.decode_eq_ok_iff, invariant.decode_eq_ok_iff, same]
  refine ⟨h.told, h.ordered, ?_, fun decoded text gives =>
    h.places decoded text ((decodes text).mp gives)⟩
  simp only [decodes, same]
  exact h.decoded

/-- Whatever the check of a file comes to, the result describes the file. -/
theorem Checker.describes_checkFile {c : Checker} {shown path : String} {content : List UInt8}
    {access : FileAccess} {file : CheckedFile}
    (h : (c.checkFile shown path (.file content access)).1 = .ok file) :
    ∃ pieces, pieces.flatten = content ∧ file.Describes c access pieces := by
  obtain ⟨pieces, rfl, lists⟩ := checkNode_pieces_iff c shown content access
  refine ⟨pieces, rfl, ?_⟩
  rcases checkFile_cases h with ⟨tabs, listed, rfl⟩ | ⟨fault, status, record, failed, settled, rfl⟩
  · obtain ⟨-, reads, clear, text, decodes, rfl⟩ := (lists tabs).mp listed
    constructor
    · exact told_checkFile h
    · exact pairwise_tabsOf text
    · refine iff_of_true ?_ ⟨reads, clear, text, decodes⟩
      unfold FileStatus.Decoded
      dsimp only
      split <;> simp
    · intro _ text' decodes'
      obtain rfl := Except.ok.inj (decodes.symm.trans decodes')
      rw [Tracker.tabsOf_eq_tabPlaces]
      exact ⟨rfl, length_tabPlaces text⟩
  · have undecoded := FileFault.not_decoded_of_settled settled
    constructor
    · exact told_checkFile h
    · exact .nil
    · refine iff_of_false undecoded ?_
      rintro ⟨reads, clear, text, decodes⟩
      -- A check that cannot begin is not settled, so this one could, and would have come to a list.
      have begins : c.Begins := by
        by_contra stuck
        obtain ⟨e, opening⟩ := check_not_begins stuck (Node.source pieces.flatten access)
        rw [checkNode_opened reads.source_eq.2, opening] at failed
        cases failed
        cases settled
      rw [(lists _).mpr ⟨begins, reads, clear, text, decodes, rfl⟩] at failed
      cases failed
    · exact fun decoded => absurd decoded undecoded

end TabAudit
