import TabAudit.Proofs.Faults

/-!
# A run of zeros and bytes that do not decode

A check reads and decodes by turns. So a run of zeros ends it only if the blocks before the one in
which the run ends can be decoded, and what is said of a file may depend on the size of the blocks.
It does not where the bytes up to the end of the run are the front of a content that decodes.
-/

namespace TabAudit

/-! ## Whole blocks -/

/-- So many blocks from the front of a content. -/
def blocks (size count : Nat) (content : List UInt8) : List (List UInt8) :=
  (List.range count).map fun i => (content.drop (i * size)).take size

theorem blocks_succ (size count : Nat) (content : List UInt8) :
    blocks size (count + 1) content =
      content.take size :: blocks size count (content.drop size) := by
  simp [blocks, List.range_succ_eq_map, Function.comp_def, Nat.succ_mul, Nat.add_comm]

theorem flatten_blocks (size count : Nat) (content : List UInt8) :
    (blocks size count content).flatten = content.take (count * size) := by
  induction count generalizing content with
  | zero => simp [blocks]
  | succ count ih =>
    rw [blocks_succ, List.flatten_cons, ih, Nat.succ_mul, Nat.add_comm, List.take_add]

namespace StreamDecoder

variable {way : StreamDecoder}

/-- The state after pieces that do not end the stream. -/
def after (way : StreamDecoder) (d : way.State) :
    List (List UInt8) → Except DecodeFault way.State
  | [] => .ok d
  | piece :: pieces =>
    match way.feed d piece false with
    | .error e => .error e
    | .ok (_, d) => after way d pieces

theorem after_ok_of_decodeFrom {d : way.State} {pieces more : List (List UInt8)} {text : List Char}
    (decoded : way.decodeFrom d (pieces ++ more) = .ok text) :
    ∃ d', way.after d pieces = .ok d' := by
  induction pieces generalizing d text with
  | nil => exact ⟨d, rfl⟩
  | cons piece pieces ih =>
    rw [List.cons_append, decodeFrom] at decoded
    cases fed : way.feed d piece false with
    | error e => simp [fed] at decoded
    | ok out =>
      cases rest : way.decodeFrom out.2 (pieces ++ more) with
      | error e => simp [fed, rest, Except.map] at decoded
      | ok later =>
        obtain ⟨d', taken⟩ := ih rest
        exact ⟨d', by simp only [after, fed, taken]⟩

/-- Pieces are taken if something behind them makes them a content that decodes. -/
theorem ChunkInvariant.after_ok (h : way.ChunkInvariant) {pieces : List (List UInt8)}
    {more : List UInt8} (decodes : (way.whole (pieces.flatten ++ more)).isSome) :
    ∃ d', way.after way.start pieces = .ok d' := by
  have cut := h (pieces ++ [more])
  rw [List.flatten_append, List.flatten_singleton] at cut
  rw [← cut] at decodes
  cases decoded : way.decode (pieces ++ [more]) with
  | error e => simp [decoded, Except.toOption] at decodes
  | ok text => exact after_ok_of_decodeFrom decoded

end StreamDecoder

/-! ## The blocks of a file -/

/-- What is left of a source that holds nothing but bytes. -/
def Source.Plain (s : Source) (rest : List UInt8) : Prop := s = [.bytes rest] ∨ s = [] ∧ rest = []

theorem Source.Plain.answer {s : Source} {rest : List UInt8} (h : s.Plain rest) (limit : Nat) :
    ∃ s', s.answer limit = (.bytes (rest.take limit), s') ∧ s'.Plain (rest.drop limit) := by
  rcases h with rfl | ⟨rfl, rfl⟩
  · by_cases short : rest.length ≤ limit
    · refine ⟨[], ?_, .inr ⟨rfl, List.drop_of_length_le short⟩⟩
      rw [Source.answer, if_pos short, List.take_of_length_le short]
    · exact ⟨_, by rw [Source.answer, if_neg short], .inl rfl⟩
  · exact ⟨[], by simp [Source.answer], .inr ⟨rfl, List.drop_nil⟩⟩

theorem Source.Plain.content {s : Source} {rest : List UInt8} (h : s.Plain rest) :
    s.content = rest := by
  rcases h with rfl | ⟨rfl, rfl⟩
  · exact List.append_nil rest
  · rfl

theorem FirstZeroRun.unique {size i j : Nat} {bs : List UInt8} (hi : FirstZeroRun size bs i)
    (hj : FirstZeroRun size bs j) : i = j := by
  rcases Nat.lt_trichotomy i j with before | same | behind
  · exact absurd hi.1 (hj.2 i before)
  · exact same
  · exact absurd hj.1 (hi.2 j behind)

/-- A reader that stands between two blocks of a file. -/
structure Between (content rest : List UInt8) (threshold capacity : Nat) (r : NulReader) :
    Prop where
  underway : Underway [.bytes content] threshold capacity r
  unread : r.unread = []
  plain : r.source.Plain rest

namespace Between

variable {content rest : List UInt8} {threshold capacity first : Nat} {r r₁ : NulReader}

theorem capacity_eq (h : Between content rest threshold capacity r) : r.capacity = capacity := by
  obtain ⟨handed, sound⟩ := h.underway.sound
  exact sound.capacity_eq

theorem content_eq (h : Between content rest threshold capacity r) : content = r.taken ++ rest := by
  obtain ⟨handed, sound⟩ := h.underway.sound
  have whole := sound.content
  rwa [h.plain.content, Source.content, Source.content, List.append_nil] at whole

/-- The next block is the next so many bytes, if the scan gets through them. -/
theorem readBlock (h : Between content rest threshold capacity r) (hc : 1 ≤ capacity)
    (fits : memoryFault? capacity = none) :
    ∃ r₁, r₁.unread = [] ∧ r₁.source.Plain (rest.drop capacity) ∧
      r.readBlock capacity =
        (if (r.scan.feed r.threshold (rest.take capacity)).2 then
          .error (.nulRun (r.scan.feed r.threshold (rest.take capacity)).1.start)
        else .ok (rest.take capacity), r₁) := by
  obtain ⟨left, answer, plain⟩ := h.plain.answer capacity
  have whole : capacity = r.unread.length + capacity := by simp [h.unread]
  have size : (1 : Int) ≤ capacity := by omega
  rw [NulReader.readBlock_eq_serve size fits, Int.toNat_natCast,
    NulReader.serve_eq_draw h.underway.clear whole hc, h.capacity_eq, Nat.max_self]
  unfold NulReader.draw NulReader.pull NulReader.inspect
  simp only [NulReader.reset, answer]
  rcases r.scan.feed r.threshold (rest.take capacity) with ⟨scan, met⟩
  cases met with
  | false => exact ⟨_, rfl, plain, by simp [h.unread, List.take_take]; rfl⟩
  | true => exact ⟨_, rfl, plain, rfl⟩

/-- The scan of the next block meets the first run just if it ends there. -/
theorem meets (h : Between content rest threshold capacity r)
    (run : FirstZeroRun threshold content first) :
    r.taken.length < first + threshold ∧
      if (r.scan.feed r.threshold (rest.take capacity)).2 then
        (r.scan.feed r.threshold (rest.take capacity)).1.start = first ∧
          first + threshold ≤ r.taken.length + capacity
      else r.taken.length + capacity < first + threshold := by
  obtain ⟨handed, sound⟩ := h.underway.sound
  have tracks := sound.tracks (Session.found_of_clear h.underway.clear)
  have reports : NulScan.Reports r.threshold (r.taken ++ rest.take capacity)
      (r.scan.feed r.threshold (rest.take capacity)) := tracks.reports_feed _
  have same : r.threshold = threshold := sound.threshold_eq
  rw [same] at tracks reports ⊢
  have split : content = r.taken ++ rest.take capacity ++ rest.drop capacity := by
    rw [List.append_assoc, List.take_append_drop]
    exact h.content_eq
  refine ⟨tracks.lt_of_firstZeroRun (h.content_eq ▸ run), ?_⟩
  generalize r.scan.feed threshold (rest.take capacity) = out at reports ⊢
  obtain ⟨scan, met⟩ := out
  cases met with
  | true =>
    have here : FirstZeroRun threshold (r.taken ++ rest.take capacity) scan.start := reports.1
    have whole := here.append sound.positive (rest.drop capacity)
    rw [← split] at whole
    have within := here.1.le_length sound.positive
    rw [List.length_append, List.length_take] at within
    refine ⟨whole.unique run, ?_⟩
    rw [← whole.unique run]
    omega
  | false =>
    have clear := NulScan.Tracks.clear (show scan.Tracks threshold _ from reports)
    show _ < _
    by_contra behind
    -- A run that ends before the block does would have been met in it.
    have within := run.1.le_length sound.positive
    rw [split, List.length_append, List.length_append] at within
    refine clear first ((split ▸ run.1).of_append ?_)
    rw [List.length_append, List.length_take] at *
    rw [List.length_drop] at within
    omega

/-- The next block ends with the first run, or the reader stands behind it. -/
theorem block (h : Between content rest threshold capacity r) (hc : 1 ≤ capacity)
    (fits : memoryFault? capacity = none) (run : FirstZeroRun threshold content first) :
    (first + threshold ≤ r.taken.length + capacity ∧
      ∃ r₁, r.readBlock capacity = (.error (.nulRun first), r₁)) ∨
    (r.taken.length + capacity < first + threshold ∧
      ∃ r₁, r.readBlock capacity = (.ok (rest.take capacity), r₁) ∧
        Between content (rest.drop capacity) threshold capacity r₁ ∧
        r₁.taken = r.taken ++ rest.take capacity ∧ capacity < rest.length) := by
  obtain ⟨r₁, unread, plain, read⟩ := h.readBlock hc fits
  have ends := (h.meets run).2
  split at ends
  · rename_i met
    rw [if_pos met, ends.1] at read
    exact .inl ⟨ends.2, r₁, read⟩
  · rename_i clear
    rw [if_neg clear] at read
    have size : (1 : Int) ≤ capacity := by omega
    have proceeds := NulReader.readBlock_proceeds h.underway.clear size fits
    rw [read] at proceeds
    have underway := h.underway.after_block proceeds
    obtain ⟨handed, sound⟩ := h.underway.sound
    have within := run.1.le_length sound.positive
    rw [h.content_eq, List.length_append] at within
    refine .inr ⟨ends, r₁, read, ⟨underway, unread, plain⟩, ?_, by omega⟩
    -- Nothing is held back, so the bytes handed on are those that were taken.
    cases proceeds with
    | hands draws scan found balance =>
      rw [h.unread, unread, List.append_nil, List.nil_append] at balance
      rw [draws.taken, balance]

end Between

namespace Checker

variable {way : StreamDecoder} {content rest : List UInt8} {threshold capacity first : Nat}
  {r : NulReader}

/-- How a check ends that comes to a run of zeros, if it comes to it. -/
def stopped {α : Type} (first : Nat) (reached : Except DecodeFault α) :
    Except CheckFault (List Position) :=
  match reached with
  | .ok _ => .error (.reading (.nulRun first))
  | .error fault => .error (.decoding fault)

/-- What a check comes to that stands between two blocks, with a run of zeros ahead. -/
theorem checkFrom_nulRun (hc : 1 ≤ capacity) (fits : memoryFault? capacity = none)
    (h : Between content rest threshold capacity r) (run : FirstZeroRun threshold content first)
    (d : way.State) (t : Tracker) (tabs : List Position) :
    (checkFrom way capacity r d t tabs).1 = stopped first (way.after d
      (blocks capacity ((first + threshold - r.taken.length - 1) / capacity) rest)) := by
  have next := h.block hc fits run
  fun_induction checkFrom way capacity r d t tabs generalizing rest with
  | case1 r d t tabs e r₁ hr =>
    rw [hr] at next
    rcases next with ⟨ends, r₂, same⟩ | ⟨-, r₂, same, -⟩
    · obtain ⟨rfl, -⟩ := by simpa using same
      rw [Nat.div_eq_of_lt (by omega)]
      rfl
    · simp at same
  | case2 r d t tabs r₁ hr e he | case3 r d t tabs r₁ hr text d₁ he =>
    -- The file does not end before the run does.
    rw [hr] at next
    rcases next with ⟨-, r₂, same⟩ | ⟨-, r₂, same, -, -, long⟩
    · simp at same
    · have block : [] = rest.take capacity := by simpa using (congrArg Prod.fst same)
      have := congrArg List.length block
      simp only [List.length_nil, List.length_take] at this
      omega
  | case4 r d t tabs b bs r₁ hr e he =>
    rw [hr] at next
    rcases next with ⟨-, r₂, same⟩ | ⟨further, r₂, same, -⟩
    · simp at same
    · have block : b :: bs = rest.take capacity := by simpa using (congrArg Prod.fst same)
      rw [Nat.div_eq_sub_div hc (by omega), blocks_succ, ← block, StreamDecoder.after]
      simp only [he, stopped]
  | case5 r d t tabs b bs r₁ hr text d₁ he ih =>
    rw [hr] at next
    rcases next with ⟨-, r₂, same⟩ | ⟨further, r₂, same, between, taken, long⟩
    · simp at same
    · obtain ⟨block, rfl⟩ : b :: bs = rest.take capacity ∧ r₁ = r₂ := by simpa using same
      have moved : first + threshold - r.taken.length - 1 - capacity =
          first + threshold - r₁.taken.length - 1 := by
        rw [taken, List.length_append, List.length_take]
        omega
      have count : (first + threshold - r.taken.length - 1) / capacity =
          (first + threshold - r₁.taken.length - 1) / capacity + 1 := by
        rw [Nat.div_eq_sub_div hc (by omega), moved]
      rw [ih between (between.block hc fits run), count, blocks_succ, ← block,
        StreamDecoder.after]
      simp only [he]

/-- A run of zeros ends a check unless a block before it does not decode. -/
theorem checkWith_nulRun (way : StreamDecoder) {threshold bufferSize : Nat} (ht : 1 ≤ threshold)
    (hb : 1 ≤ bufferSize) (fits : memoryFault? bufferSize = none)
    (run : FirstZeroRun threshold content first) :
    (checkWith way threshold bufferSize [.bytes content]).1 = stopped first
      (way.after way.start (blocks bufferSize ((first + threshold - 1) / bufferSize) content)) := by
  have opened := Session.open_eq [.bytes content] ht hb
  rw [fits] at opened
  have start : Between content content threshold bufferSize
      ⟨[.bytes content], 0, threshold, bufferSize, [], 0, .initial, none, false, []⟩ :=
    ⟨Underway.start ht hb ⟨trivial, fun _ => rfl⟩ opened, rfl, .inl rfl⟩
  rw [checkWith, opened]
  exact checkFrom_nulRun hb fits start run _ _ _

/-- Whether no bytes before the end of a run of zeros can keep a check from coming to the run: to the
decoder the pieces make no difference, and these bytes are the front of something that decodes. -/
def Harmless (way : StreamDecoder) (threshold : Nat) (content : List UInt8) : Prop :=
  way.ChunkInvariant ∧ ∀ first, FirstZeroRun threshold content first →
    ∃ more, (way.whole (content.take (first + threshold) ++ more)).isSome

/-- A run of zeros that ends in the first block is met before any byte is decoded, and one with
nothing harmful before it is always met. -/
theorem checkWith_run_met (way : StreamDecoder) {threshold bufferSize : Nat} (ht : 1 ≤ threshold)
    (hb : 1 ≤ bufferSize) (fits : memoryFault? bufferSize = none)
    (run : FirstZeroRun threshold content first)
    (harmless : first + threshold ≤ bufferSize ∨ Harmless way threshold content) :
    (checkWith way threshold bufferSize [.bytes content]).1 =
      .error (.reading (.nulRun first)) := by
  rw [checkWith_nulRun way ht hb fits run]
  rcases harmless with near | ⟨invariant, fronts⟩
  · rw [Nat.div_eq_of_lt (by omega)]
    rfl
  · obtain ⟨more, decodes⟩ := fronts first run
    generalize whole_blocks : (first + threshold - 1) / bufferSize = count
    have within : count * bufferSize ≤ first + threshold := by
      have := Nat.div_mul_le_self (first + threshold - 1) bufferSize
      rw [whole_blocks] at this
      omega
    have front : (blocks bufferSize count content).flatten ++
        (((content.take (first + threshold)).drop (count * bufferSize)) ++ more) =
        content.take (first + threshold) ++ more := by
      rw [flatten_blocks, ← List.append_assoc, ← Nat.min_eq_left within, ← List.take_take,
        Nat.min_eq_left within, List.take_append_drop]
    rw [← front] at decodes
    obtain ⟨d, taken⟩ := invariant.after_ok decodes
    rw [taken]
    rfl

/-! ## What is said of a file -/

theorem exists_firstZeroRun {size k : Nat} {bs : List UInt8} (h : ZeroRunAt size bs k) :
    ∃ first, FirstZeroRun size bs first := by
  classical
  exact ⟨Nat.find ⟨k, h⟩, Nat.find_spec ⟨k, h⟩, fun j before => Nat.find_min ⟨k, h⟩ before⟩

/-- What a file is by its content alone: a run of zeros makes it binary, and one without is as its
text is. -/
inductive Merits (way : StreamDecoder) (threshold : Nat) (content : List UInt8) (path : String) :
    CheckedFile → Prop
  | binary {first : Nat} (run : FirstZeroRun threshold content first) :
      Merits way threshold content path ⟨path, .binary, []⟩
  | undecodable (clear : ∀ k, ¬ ZeroRunAt threshold content k)
      (fails : way.whole content = none) :
      Merits way threshold content path ⟨path, .undecodable, []⟩
  | text {text : List Char} (clear : ∀ k, ¬ ZeroRunAt threshold content k)
      (decodes : way.whole content = some text) :
      Merits way threshold content path
        ⟨path, if (tabsOf text).isEmpty then .clean else .tabsFound, tabsOf text⟩

theorem Merits.unique {way : StreamDecoder} {path : String} {file file' : CheckedFile}
    (h : Merits way threshold content path file)
    (h' : Merits way threshold content path file') : file = file' := by
  cases h with
  | binary run =>
    cases h' with
    | binary _ => rfl
    | undecodable clear _ => exact absurd run.1 (clear _)
    | text clear _ => exact absurd run.1 (clear _)
  | undecodable clear fails =>
    cases h' with
    | binary run => exact absurd run.1 (clear _)
    | undecodable _ _ => rfl
    | text _ decodes => rw [fails] at decodes; cases decodes
  | text clear decodes =>
    cases h' with
    | binary run => exact absurd run.1 (clear _)
    | undecodable _ fails => rw [fails] at decodes; cases decodes
    | text _ decodes' =>
      rw [decodes] at decodes'
      cases decodes'
      rfl

theorem checkFile_nulRun {c : Checker} {shown path : String}
    (checked : (c.check (Node.source content .sound)).1 = .error (.reading (.nulRun first))) :
    (c.checkFile shown path (.file content .sound)).1 = .ok ⟨path, .binary, []⟩ := by
  have failed : (c.checkNode shown (.file content .sound)).1 =
      .error (.check (.reading (.nulRun first))) := by
    rw [checkNode_opened (by simp), checked]
    rfl
  rw [checkFile_of_error failed]
  rfl

theorem merits_checkFile {c : Checker} (apart : c.encoding.stream.NeverRefuses)
    (ht : 1 ≤ c.threshold) (hb : 1 ≤ c.bufferSize)
    (fits : memoryFault? c.bufferSize.toNat = none)
    (harmless : Harmless c.encoding.stream c.threshold.toNat content) {shown path : String}
    {file : CheckedFile}
    (given : (c.checkFile shown path (.file content .sound)).1 = .ok file) :
    Merits c.encoding.stream c.threshold.toNat content path file := by
  have threshold : 1 ≤ c.threshold.toNat := by omega
  have size : 1 ≤ c.bufferSize.toNat := by omega
  have lists := check_file_ok_iff harmless.1 ht hb fits content
  by_cases run : ∃ k, ZeroRunAt c.threshold.toNat content k
  · obtain ⟨k, here⟩ := run
    obtain ⟨first, run⟩ := exists_firstZeroRun here
    have met := checkWith_run_met c.encoding.stream threshold size fits run (.inr harmless)
    rw [checkFile_nulRun ((congrArg Prod.fst (c.check_eq ht hb _)).trans met)] at given
    cases given
    exact .binary run
  have clear : ∀ k, ¬ ZeroRunAt c.threshold.toNat content k := not_exists.mp run
  cases checked : (c.check (Node.source content .sound)).1 with
  | ok tabs =>
    obtain ⟨-, text, decodes, rfl⟩ := (lists tabs).mp checked
    have node : (c.checkNode shown (.file content .sound)).1 = .ok (tabsOf text) := by
      rw [checkNode_opened (by simp), checked]
      rfl
    rw [checkFile_of_ok node] at given
    cases given
    exact .text clear decodes
  | error fault =>
    have fails : c.encoding.stream.whole content = none := by
      refine Option.eq_none_iff_forall_ne_some.mpr fun text decodes => ?_
      rw [(lists (tabsOf text)).mpr ⟨clear, text, decodes, rfl⟩] at checked
      cases checked
    have node : (c.checkNode shown (.file content .sound)).1 = .error (.check fault) := by
      rw [checkNode_opened (by simp), checked]
      rfl
    rw [checkFile_of_error node] at given
    rw [c.check_eq ht hb] at checked
    have arises := checkWith_arises threshold size fits checked
    cases fault with
    | opening fault => exact arises.elim
    | reading fault =>
      cases fault with
      | nulRun first =>
        have whole : (Node.source content .sound).content = content := List.append_nil content
        have run : FirstZeroRun c.threshold.toNat content first := whole ▸ arises
        exact absurd run.1 (clear first)
      | source text => exact absurd (fun _ failure => by simp [Node.source] at failure) arises
      | closed => exact arises.elim
      | lengthNotPositive length => exact arises.elim
      | memory fault => exact arises.elim
    | decoding e =>
      have refuses := kind_of_checkWith apart checked
      simp only [FileFault.settled?] at given
      cases kind : e.kind with
      | undecodable =>
        simp only [kind] at given
        cases given
        exact .undecodable clear fails
      | denied => exact absurd kind refuses.1
      | system => exact absurd kind refuses.2
      | _ => simp [kind] at given

/-- A file with a run of zeros is found to be binary unless a whole block before the one in which
the run ends does not decode. So it is if the run ends in the first block, or there is nothing
harmful up to its end, and then the size of the blocks has no part in what is said of a file. -/
theorem check_zeroRun {c : Checker} (ht : 1 ≤ c.threshold) (hb : 1 ≤ c.bufferSize)
    (fits : memoryFault? c.bufferSize.toNat = none) (content : List UInt8) :
    (∀ first, FirstZeroRun c.threshold.toNat content first →
      (c.check (Node.source content .sound)).1 = stopped first
        (c.encoding.stream.after c.encoding.stream.start (blocks c.bufferSize.toNat
          ((first + c.threshold.toNat - 1) / c.bufferSize.toNat) content)) ∧
      (first + c.threshold.toNat ≤ c.bufferSize.toNat ∨
          Harmless c.encoding.stream c.threshold.toNat content →
        (c.check (Node.source content .sound)).1 = .error (.reading (.nulRun first)) ∧
        ∀ shown path,
          (c.checkFile shown path (.file content .sound)).1 = .ok ⟨path, .binary, []⟩)) ∧
    (c.encoding.stream.NeverRefuses → Harmless c.encoding.stream c.threshold.toNat content →
      ∀ size : Int, 1 ≤ size → memoryFault? size.toNat = none → ∀ shown path file file',
        (c.checkFile shown path (.file content .sound)).1 = .ok file →
        ({ c with bufferSize := size }.checkFile shown path (.file content .sound)).1 = .ok file' →
          file = file') := by
  have threshold : 1 ≤ c.threshold.toNat := by omega
  have size : 1 ≤ c.bufferSize.toNat := by omega
  refine ⟨fun first run => ⟨?_, fun harmless => ?_⟩, fun apart harmless other hb' fits' => ?_⟩
  · rw [c.check_eq ht hb]
    exact checkWith_nulRun c.encoding.stream threshold size fits run
  · have met : (c.check (Node.source content .sound)).1 = .error (.reading (.nulRun first)) := by
      rw [c.check_eq ht hb]
      exact checkWith_run_met c.encoding.stream threshold size fits run harmless
    exact ⟨met, fun shown path => checkFile_nulRun met⟩
  · intro shown path file file' given given'
    have merits := merits_checkFile apart ht hb fits harmless given
    exact merits.unique (merits_checkFile (c := { c with bufferSize := other }) apart ht hb' fits'
      harmless given')

/-- UTF-8 in blocks of some size, where one zero makes a file binary. -/
def oneZero (size : Int) : Checker := ⟨"utf-8", .known .utf8, 1, size⟩

/-- A zero behind a tab is met, though the tab is decoded before. -/
theorem check_zeroRun_tab :
    FirstZeroRun 1 [9, 0] 1 ∧
      ((oneZero 1).check (Node.source [9, 0] .sound)).1 = .error (.reading (.nulRun 1)) := by
  have run : FirstZeroRun 1 [9, 0] 1 := by
    unfold FirstZeroRun ZeroRunAt
    decide
  have harmless : Harmless Encoding.utf8.stream 1 [9, 0] := by
    refine ⟨Encoding.utf8.chunkInvariant, fun first other => ?_⟩
    obtain rfl := run.unique other
    exact ⟨[], by cbv⟩
  have checked := check_zeroRun (c := oneZero 1) (by decide) (by decide) rfl [9, 0]
  exact ⟨run, ((checked.1 1 run).2 (.inr harmless)).1⟩

/-- A zero behind a byte that does not decode is met in blocks of two bytes, but not in blocks of
one. -/
theorem zeroRun_behind_undecodable :
    FirstZeroRun 1 [0xFF, 0] 1 ∧
      ((oneZero 2).check (Node.source [0xFF, 0] .sound)).1 = .error (.reading (.nulRun 1)) ∧
      ((oneZero 1).check (Node.source [0xFF, 0] .sound)).1 =
        .error (.decoding (.undecodable .utf8 0xFF 0 0 .invalidStart)) := by
  have run : FirstZeroRun 1 [0xFF, 0] 1 := by
    unfold FirstZeroRun ZeroRunAt
    decide
  refine ⟨run, ?_, ?_⟩
  · exact checkWith_run_met Encoding.utf8.stream (show 1 ≤ 1 by decide) (show 1 ≤ 2 by decide)
      rfl run (.inl (by decide))
  · exact (checkWith_nulRun Encoding.utf8.stream (show 1 ≤ 1 by decide) (show 1 ≤ 1 by decide)
      rfl run).trans (by cbv)

end Checker

end TabAudit
