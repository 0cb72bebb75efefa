import Mathlib
import TabAudit.Checker
import TabAudit.Disk.Node
import TabAudit.Proofs.Bytes.Session
import TabAudit.Proofs.Encoding.Chunks
import TabAudit.Proofs.Position.Tabs

/-!
# A check in blocks and a check at once

A file is read, decoded and swept block by block. With a decoder to which the pieces make no
difference, the outcome is that of the whole content: a list comes out exactly when there is no run
of zero bytes and the content decodes, and it is the list of the tabs of the text. The size of the
blocks has no part in it.
-/

namespace TabAudit

/-! ## The reader of a check -/

/-- A reader that goes through a steady source and was not stopped yet. -/
structure Underway (source : Source) (threshold capacity : Nat) (r : NulReader) : Prop where
  sound : ∃ handed, Session.Sound source threshold capacity ⟨r, handed⟩
  clear : r.barred = none
  whole : source.Steady
  rest : r.source.Steady

namespace Underway

variable {source : Source} {threshold capacity : Nat} {r r₁ : NulReader}

theorem start (ht : 1 ≤ threshold) (hc : 1 ≤ capacity) (steady : source.Steady)
    (h : NulReader.open (some source) threshold capacity = .ok r) :
    Underway source threshold capacity r := by
  have sound := Session.sound_start ht hc h
  obtain ⟨-, rfl⟩ := Session.open_ok ht hc h
  exact ⟨⟨[], sound⟩, rfl, steady, steady⟩

theorem after_block (h : Underway source threshold capacity r) {bs : List UInt8}
    (hp : r.Proceeds (.ok bs, r₁)) : Underway source threshold capacity r₁ := by
  obtain ⟨handed, sound⟩ := h.sound
  have after := sound.after_proceeds (Session.found_of_clear h.clear) hp
  exact ⟨⟨handed ++ bs, after⟩, hp.barred.trans h.clear, h.whole, hp.steady h.rest⟩

/-- Only a run of zeros ends the reading of a steady source early. -/
theorem run_of_error (h : Underway source threshold capacity r) {e : ReadFault}
    (hp : r.Proceeds (.error e, r₁)) : ∃ k, ZeroRunAt threshold source.content k := by
  obtain ⟨handed, sound⟩ := h.sound
  exact sound.run_of_error (Session.found_of_clear h.clear) h.rest.neverFails hp

/-- A reader that has come to the end has seen that there is no run of zeros. -/
theorem no_run_of_end (h : Underway source threshold capacity r) (none : r.pending = [])
    (k : Nat) : ¬ ZeroRunAt threshold source.content k := by
  obtain ⟨handed, sound⟩ := h.sound
  have seen := (sound.tracks (Session.found_of_clear h.clear)).clear k
  have all : r.source.content = [] := (List.append_eq_nil_iff.1 none).2
  rw [sound.content, all, List.append_nil]
  rwa [sound.threshold_eq] at seen

end Underway

namespace Checker

variable {way : StreamDecoder} {threshold capacity : Nat} {source : Source}

/-! ## Block by block -/

/-- What the rest of a check comes to: the pending bytes are cut into some pieces, and the text of
these is swept on from where the tracker is. -/
theorem checkFrom_ok_iff {blockSize : Int} (hb : 1 ≤ blockSize)
    (fits : memoryFault? blockSize.toNat = none) {r : NulReader}
    (h : Underway source threshold capacity r) (d : way.State) (t : Tracker)
    (tabs : List Position) :
    ∃ pieces, pieces.flatten = r.pending ∧ ∀ out,
      (checkFrom way blockSize r d t tabs).1 = .ok out ↔
        (∀ k, ¬ ZeroRunAt threshold source.content k) ∧
        ∃ text, way.decodeFrom d pieces = .ok text ∧ tabs ++ (t.feed text).1 = out := by
  have hp := NulReader.readBlock_proceeds h.clear hb fits
  fun_induction checkFrom way blockSize r d t tabs with
  | case1 r d t tabs e r₁ hr =>
    -- The reader was stopped by a run, so neither side of the equivalence holds, however it is cut.
    obtain ⟨k, hk⟩ := h.run_of_error (hr ▸ hp)
    exact ⟨[r.pending], List.flatten_singleton, fun out => ⟨by simp, fun hc => absurd hk (hc.1 k)⟩⟩
  | case2 r d t tabs r₁ hr e he =>
    have none := NulReader.pending_of_readBlock_nil hr h.rest.ending
    refine ⟨[], none.symm, fun out => ?_⟩
    simp [StreamDecoder.decodeFrom, he, Except.map]
  | case3 r d t tabs r₁ hr text d₁ he =>
    have none := NulReader.pending_of_readBlock_nil hr h.rest.ending
    refine ⟨[], none.symm, fun out => ?_⟩
    simp [StreamDecoder.decodeFrom, he, Except.map, h.no_run_of_end none]
  | case4 r d t tabs b bs r₁ hr e he =>
    have front := NulReader.pending_readBlock hr
    refine ⟨[b :: bs, r₁.pending], by simpa using front.symm, fun out => ?_⟩
    simp [StreamDecoder.decodeFrom, he]
  | case5 r d t tabs b bs r₁ hr text d₁ he ih =>
    -- The block is one more piece in front of those into which the rest is cut.
    have front := NulReader.pending_readBlock hr
    have h₁ := h.after_block (hr ▸ hp)
    obtain ⟨pieces, hf, hi⟩ := ih h₁ (NulReader.readBlock_proceeds h₁.clear hb fits)
    refine ⟨(b :: bs) :: pieces, by rw [List.flatten_cons, hf, front], fun out => ?_⟩
    rw [hi, StreamDecoder.decodeFrom]
    simp only [he]
    refine and_congr_right fun _ => ?_
    cases way.decodeFrom d₁ pieces with
    | error e => simp [Except.map]
    | ok more => simp [Except.map, Tracker.feed_append]

/-- What a check comes to: the content is cut into some pieces, and swept once these are decoded. -/
theorem checkWith_pieces_iff (way : StreamDecoder) {threshold bufferSize : Nat}
    (ht : 1 ≤ threshold) (hb : 1 ≤ bufferSize) (fits : memoryFault? bufferSize = none)
    (steady : source.Steady) :
    ∃ pieces, pieces.flatten = source.content ∧ ∀ tabs,
      (checkWith way threshold bufferSize source).1 = .ok tabs ↔
        (∀ k, ¬ ZeroRunAt threshold source.content k) ∧
        ∃ text, way.decode pieces = .ok text ∧ tabs = tabsOf text := by
  have opened := Session.open_eq source ht hb
  rw [fits] at opened
  have start := Underway.start ht hb steady opened
  have size : (1 : Int) ≤ bufferSize := by omega
  obtain ⟨pieces, whole, each⟩ := checkFrom_ok_iff size fits start way.start .initial []
  refine ⟨pieces, whole, fun tabs => ?_⟩
  rw [checkWith, opened]
  refine (each tabs).trans (and_congr_right fun _ => exists_congr fun text => ?_)
  simp [StreamDecoder.decode, Tracker.feed_initial, eq_comm]

/-! ## At once -/

/-- A check whose buffer memory can hold. -/
theorem checkWith_ok_iff (invariant : way.ChunkInvariant) {threshold bufferSize : Nat}
    (ht : 1 ≤ threshold) (hb : 1 ≤ bufferSize) (fits : memoryFault? bufferSize = none)
    (steady : source.Steady) (tabs : List Position) :
    (checkWith way threshold bufferSize source).1 = .ok tabs ↔
      (∀ k, ¬ ZeroRunAt threshold source.content k) ∧
      ∃ text, way.whole source.content = some text ∧ tabs = tabsOf text := by
  obtain ⟨pieces, whole, each⟩ := checkWith_pieces_iff way ht hb fits steady
  simp only [each, invariant.decode_eq_ok_iff, whole]

/-- A check whose buffer memory cannot hold ends before anything is read. -/
theorem checkWith_too_large (way : StreamDecoder) {threshold bufferSize : Nat} (ht : 1 ≤ threshold)
    (hb : 1 ≤ bufferSize) {fault : MemoryFault} (full : memoryFault? bufferSize = some fault)
    (source : Source) :
    checkWith way threshold bufferSize source = (.error (.opening (.memory fault)), []) := by
  have opened := Session.open_eq source ht hb
  rw [full] at opened
  rw [checkWith, opened]

/-- Whatever the block size, as long as memory holds a buffer of it, the list that a check gives is
that of the tabs in the decoded content, and there is one exactly when the content has no run of
zero bytes and is decoded. -/
theorem checkWith_whole (invariant : way.ChunkInvariant) {threshold bufferSize : Nat}
    (ht : 1 ≤ threshold) (hb : 1 ≤ bufferSize) {source : Source} (steady : source.Steady) :
    (memoryFault? bufferSize = none → ∀ tabs,
      (checkWith way threshold bufferSize source).1 = .ok tabs ↔
        (∀ k, ¬ ZeroRunAt threshold source.content k) ∧
        ∃ text, way.whole source.content = some text ∧ tabs = tabsOf text) ∧
    ∀ fault, memoryFault? bufferSize = some fault →
      checkWith way threshold bufferSize source = (.error (.opening (.memory fault)), []) :=
  ⟨fun fits => checkWith_ok_iff invariant ht hb fits steady,
    fun _ full => checkWith_too_large way ht hb full source⟩

/-- Blocks of one byte cut a signature, a `\r\n` and two zeros. -/
theorem checkWith_whole_cut :
    Encoding.utf8Signature.stream.ChunkInvariant ∧
    (checkWith Encoding.utf8Signature.stream (3 : Nat) (1 : Nat)
      [.bytes [0xEF, 0xBB, 0xBF, 9, 13, 10, 0, 0, 9]]).1 = .ok [⟨1, 1⟩, ⟨2, 3⟩] := by
  have decoded : Encoding.utf8Signature.stream.whole [0xEF, 0xBB, 0xBF, 9, 13, 10, 0, 0, 9] =
      some ['\t', '\r', '\n', '\x00', '\x00', '\t'] := by cbv
  have steady : Source.Steady [.bytes [0xEF, 0xBB, 0xBF, 9, 13, 10, 0, 0, 9]] :=
    ⟨trivial, by simp⟩
  have clear (k : Nat) : ¬ ZeroRunAt 3 [0xEF, 0xBB, 0xBF, 9, 13, 10, 0, 0, 9] k := by
    have none : ∀ k < 7, ¬ ∀ i < 3,
        [0xEF, 0xBB, 0xBF, 9, 13, 10, 0, 0, (9 : UInt8)][k + i]? = some 0 := by decide
    intro run
    have within : k + 3 ≤ 9 := run.le_length (by decide)
    exact none k (by omega) run
  have checked := checkWith_whole Encoding.utf8Signature.chunkInvariant (show 1 ≤ 3 by decide)
    (show 1 ≤ 1 by decide) steady
  exact ⟨Encoding.utf8Signature.chunkInvariant,
    (checked.1 rfl _).2 ⟨clear, _, decoded, by decide⟩⟩

/-- With a buffer of a size that is none in memory there is no list, though the content has one. -/
theorem not_whole_beyond_memory :
    ¬ ∀ tabs, (checkWith Encoding.utf8.stream (1 : Nat) sizeLimit [.bytes [9]]).1 = .ok tabs ↔
      (∀ k, ¬ ZeroRunAt 1 (Source.content [.bytes [9]]) k) ∧
      ∃ text, Encoding.utf8.stream.whole (Source.content [.bytes [9]]) = some text ∧
        tabs = tabsOf text := by
  intro whole
  have decoded : Encoding.utf8.stream.whole [9] = some ['\t'] := by cbv
  have clear (k : Nat) : ¬ ZeroRunAt 1 [9] k := by
    intro run
    have within : k + 1 ≤ 1 := run.le_length (by decide)
    obtain rfl : k = 0 := by omega
    exact absurd (run 0 (by decide)) (by decide)
  have listed := (whole [⟨1, 1⟩]).2 ⟨clear, _, decoded, by decide⟩
  have full : memoryFault? sizeLimit = some .notASize := rfl
  rw [checkWith_too_large Encoding.utf8.stream (Nat.le_refl 1) (by decide) full] at listed
  simp at listed

/-! ## Files on disk -/

/-- A file that can be read is checked in some pieces of its content. -/
theorem check_file_pieces_iff (c : Checker) (ht : 1 ≤ c.threshold) (hb : 1 ≤ c.bufferSize)
    (fits : memoryFault? c.bufferSize.toNat = none) (content : List UInt8) :
    ∃ pieces, pieces.flatten = content ∧ ∀ tabs,
      (c.check (Node.source content .sound)).1 = .ok tabs ↔
        (∀ k, ¬ ZeroRunAt c.threshold.toNat content k) ∧
        ∃ text, c.encoding.stream.decode pieces = .ok text ∧ tabs = tabsOf text := by
  have steady : (Node.source content .sound).Steady := ⟨trivial, fun _ => rfl⟩
  have whole : (Node.source content .sound).content = content := List.append_nil content
  have threshold : (c.threshold.toNat : Int) = c.threshold := by omega
  have size : (c.bufferSize.toNat : Int) = c.bufferSize := by omega
  have checked := checkWith_pieces_iff c.encoding.stream
    (show 1 ≤ c.threshold.toNat by omega) (show 1 ≤ c.bufferSize.toNat by omega) fits steady
  rwa [threshold, size, whole] at checked

/-- A file that can be read is checked as its content is. -/
theorem check_file_ok_iff {c : Checker} (invariant : c.encoding.stream.ChunkInvariant)
    (ht : 1 ≤ c.threshold) (hb : 1 ≤ c.bufferSize)
    (fits : memoryFault? c.bufferSize.toNat = none) (content : List UInt8)
    (tabs : List Position) :
    (c.check (Node.source content .sound)).1 = .ok tabs ↔
      (∀ k, ¬ ZeroRunAt c.threshold.toNat content k) ∧
      ∃ text, c.encoding.stream.whole content = some text ∧ tabs = tabsOf text := by
  obtain ⟨pieces, rfl, each⟩ := check_file_pieces_iff c ht hb fits content
  simp only [each, invariant.decode_eq_ok_iff]

end Checker

end TabAudit
