import TabAudit.Proofs.Checker
import TabAudit.Proofs.Scan.File

/-!
# The faults of a check

What can end a check early is a run of zeros, a source that fails, and bytes that do not decode.
Among the last is a mark that is missing, which a scan does not expect; a content that starts with
a mark, or is too short for one, never leads to it.
-/

namespace TabAudit

/-! ## Where a fault comes from -/

/-- What a fault of a check says of the source. -/
def CheckFault.Arises (source : Source) (threshold : Nat) : CheckFault → Prop
  | .reading (.nulRun first) => FirstZeroRun threshold source.content first
  | .reading (.source _) => ¬ source.NeverFails
  | .decoding _ => True
  | _ => False

namespace Checker

variable {way : StreamDecoder} {source : Source} {threshold capacity : Nat} {fault : CheckFault}

theorem readBlock_arises {blockSize : Int} (hb : 1 ≤ blockSize)
    (fits : memoryFault? blockSize.toNat = none) {r r₁ : NulReader} {handed : List UInt8}
    (sound : Session.Sound source threshold capacity ⟨r, handed⟩) (clear : r.barred = none)
    {e : ReadFault} (read : r.readBlock blockSize = (.error e, r₁)) :
    (CheckFault.reading e).Arises source threshold := by
  have proceeds := NulReader.readBlock_proceeds clear hb fits
  rw [read] at proceeds
  have after : Session.Sound source threshold capacity ⟨r₁, handed⟩ :=
    sound.after_proceeds (Session.found_of_clear clear) proceeds
  cases proceeds with
  | run draws scan found emptied =>
    have first := (after.met found).1.append after.positive r₁.source.content
    rwa [← after.content] at first
  | failure draws scan found failed => exact fun calm => sound.calm calm _ failed

theorem checkFrom_arises {blockSize : Int} (hb : 1 ≤ blockSize)
    (fits : memoryFault? blockSize.toNat = none) {r : NulReader} {handed : List UInt8}
    (sound : Session.Sound source threshold capacity ⟨r, handed⟩) (clear : r.barred = none)
    (d : way.State) (t : Tracker) (tabs : List Position)
    (ends : (checkFrom way blockSize r d t tabs).1 = .error fault) :
    fault.Arises source threshold := by
  fun_induction checkFrom way blockSize r d t tabs generalizing handed with
  | case1 r d t tabs e r₁ read =>
    cases ends
    exact readBlock_arises hb fits sound clear read
  | case2 r d t tabs r₁ read e failed =>
    cases ends
    trivial
  | case3 r d t tabs r₁ read text d₁ fed => cases ends
  | case4 r d t tabs b bs r₁ read e failed =>
    cases ends
    trivial
  | case5 r d t tabs b bs r₁ read text d₁ fed ih =>
    have proceeds := NulReader.readBlock_proceeds clear hb fits
    rw [read] at proceeds
    have after : Session.Sound source threshold capacity ⟨r₁, handed ++ (b :: bs)⟩ :=
      sound.after_proceeds (Session.found_of_clear clear) proceeds
    exact ih after (proceeds.barred.trans clear) ends

/-- What ends a check early whose buffer memory can hold. -/
theorem checkWith_arises {threshold bufferSize : Nat} (ht : 1 ≤ threshold) (hb : 1 ≤ bufferSize)
    (fits : memoryFault? bufferSize = none)
    (ends : (checkWith way threshold bufferSize source).1 = .error fault) :
    fault.Arises source threshold := by
  have opened := Session.open_eq source ht hb
  rw [fits] at opened
  rw [checkWith, opened] at ends
  have size : (1 : Int) ≤ bufferSize := by omega
  exact checkFrom_arises size fits (Session.sound_start ht hb opened) rfl _ _ _ ends

end Checker

/-! ## A mark that is missing -/

/-- Whether a content can be told the byte order of: it starts with a mark, is too short for one,
or needs none. -/
def Encoding.Marked (content : List UInt8) : Encoding → Prop
  | utf16 => content.length < 2 ∨ [0xFF, 0xFE] <+: content ∨ [0xFE, 0xFF] <+: content
  | utf32 => content.length < 4 ∨ [0xFF, 0xFE, 0, 0] <+: content ∨ [0, 0, 0xFE, 0xFF] <+: content
  | _ => True

theorem Codec.kind_of_decode {c : Codec} {final : Bool} {pos : Nat} {data : List UInt8}
    {e : DecodeFault} (h : c.decode final pos data = .error e) : e.kind = .undecodable := by
  fun_induction Codec.decode c final pos data with
  | case1 => cases h
  | case2 pos b bs ch more next e' failed ih => exact ih (h ▸ failed)
  | case3 => cases h
  | case4 pos b bs size reason next last =>
    cases h
    rfl
  | case5 => cases h
  | case6 pos b bs size reason next =>
    cases h
    rfl

namespace StreamDecoder

variable {way : StreamDecoder} {d : way.State} {piece : List UInt8} {pieces : List (List UInt8)}
variable {e : DecodeFault}

theorem decodeFrom_nil_eq_error_iff :
    way.decodeFrom d [] = .error e ↔ way.feed d [] true = .error e := by
  rw [decodeFrom]
  cases way.feed d [] true <;> simp [Except.map]

/-- Pieces do not decode if the first does not, or the others behind it. -/
theorem decodeFrom_cons_eq_error_iff :
    way.decodeFrom d (piece :: pieces) = .error e ↔
      way.feed d piece false = .error e ∨
        ∃ text d', way.feed d piece false = .ok (text, d') ∧
          way.decodeFrom d' pieces = .error e := by
  rw [decodeFrom]
  rcases way.feed d piece false with e' | ⟨text, d'⟩
  · simp
  · cases later : way.decodeFrom d' pieces <;> simp [Except.map, later]

end StreamDecoder

namespace Decoder

variable {mode : DecoderMode} {codec : Codec} {width : Nat} {final : Bool} {data rest : List UInt8}

/-- A decoder whose missing mark, if it looks for one, is still to come or no longer needed. -/
def Sighted (d : Decoder) (rest : List UInt8) : Prop :=
  match d.mode with
  | .mark16 => Encoding.utf16.Marked (d.kept ++ rest)
  | .mark32 => Encoding.utf32.Marked (d.kept ++ rest)
  | _ => True

/-- What comes of a piece with which no mark is missed. -/
def Sees (mode : DecoderMode) (data : List UInt8) :
    Except DecodeFault (List Char × Decoder) → Prop
  | .error e => e.kind = .undecodable
  | .ok (_, d) => (∃ codec, d.mode = .settled codec) ∨ d = ⟨mode, data⟩

theorem sees_settle (pos : Nat) (piece : List UInt8) :
    Sees mode data (settle codec final pos piece) := by
  unfold settle
  cases decoded : codec.decode final pos piece with
  | error e => exact Codec.kind_of_decode decoded
  | ok out => exact .inl ⟨codec, rfl⟩

/-- Bytes that are too few for a mark are kept, or are a fault of their own at the end. -/
theorem sees_assume (units : codec.Units (width / 8)) (short : data.length < width / 8) :
    Sees mode data (assume mode codec width final data) := by
  cases data with
  | nil =>
    rw [assume_nil final units]
    exact .inr rfl
  | cons b bs =>
    have waits : (codec.next b bs).Waits := units.short (by simpa using short)
    cases final with
    | false =>
      rw [assume_keeps units waits]
      exact .inr rfl
    | true =>
      unfold assume
      cases decoded : codec.decode true 0 (b :: bs) with
      | error e => exact Codec.kind_of_decode decoded
      | ok out =>
        have some_ : codec.decode? true (b :: bs) = some out := by
          rw [Codec.decode?, decoded]
          rfl
        cases verdict : codec.next b bs with
        | wait size reason => simp [Codec.decode?_wait verdict] at some_
        | char ch more => simp [verdict, Verdict.Waits] at waits
        | bad size reason => simp [verdict, Verdict.Waits] at waits

theorem Looks.sees {m₁ m₂ : List UInt8} (h : Looks mode width codec m₁ m₂)
    (marked : (data ++ rest).length < width / 8 ∨ m₁ <+: data ++ rest ∨ m₂ <+: data ++ rest) :
    Sees mode data (feed ⟨mode, []⟩ data final) := by
  by_cases h₁ : m₁ <+: data
  · obtain ⟨behind, rfl⟩ := h₁
    obtain ⟨c, pos, first⟩ := h.first
    rw [first]
    exact sees_settle pos behind
  by_cases h₂ : m₂ <+: data
  · obtain ⟨behind, rfl⟩ := h₂
    obtain ⟨c, pos, second⟩ := h.second
    rw [second]
    exact sees_settle pos behind
  rw [h.neither data final h₁ h₂]
  refine sees_assume h.units ?_
  -- If the bytes are enough for a mark, then it is one that the content starts with.
  by_contra long
  have front : data <+: data ++ rest := List.prefix_append data rest
  have l₁ := h.length₁
  have l₂ := h.length₂
  rcases marked with short | mark | mark
  · rw [List.length_append] at short
    omega
  · exact h₁ (List.prefix_of_prefix_length_le mark front (by omega))
  · exact h₂ (List.prefix_of_prefix_length_le mark front (by omega))

theorem Sighted.sees (h : Sighted ⟨mode, []⟩ (data ++ rest)) :
    Sees mode data (Decoder.feed ⟨mode, []⟩ data final) := by
  cases mode with
  | settled codec => exact sees_settle 0 data
  | signature =>
    rw [feed_signature]
    split
    · exact sees_settle 0 _
    · split
      · exact .inr rfl
      · exact sees_settle 0 data
  | mark16 => exact looks_mark16.sees h
  | mark32 => exact looks_mark32.sees h

/-- With no mark missing so far, none is missed in the next piece. -/
theorem Sighted.feed {d : Decoder} {piece : List UInt8} (h : d.Sighted (piece ++ rest)) :
    (∀ e, d.feed piece final = .error e → e.kind = .undecodable) ∧
      ∀ text d', d.feed piece final = .ok (text, d') → d'.Sighted rest := by
  obtain ⟨mode, kept⟩ := d
  -- What is kept is put in front of the piece, so it is as if all of it came now.
  have here : Sighted ⟨mode, []⟩ (kept ++ piece ++ rest) := by
    simpa only [Sighted, List.nil_append, List.append_assoc] using h
  have sees : Sees mode (kept ++ piece) (Decoder.feed ⟨mode, kept⟩ piece final) :=
    here.sees
  constructor
  · intro e failed
    rwa [failed] at sees
  · intro text d' fed
    rw [fed] at sees
    rcases sees with ⟨codec, settled⟩ | rfl
    · simp only [Sighted, settled]
    · exact here

/-- A decoder that misses no mark fails, if at all, at bytes that do not decode. -/
theorem Sighted.kind_of_decodeFrom {encoding : Encoding} {pieces : List (List UInt8)}
    {d : Decoder} (h : d.Sighted pieces.flatten) {e : DecodeFault}
    (failed : encoding.stream.decodeFrom d pieces = .error e) : e.kind = .undecodable := by
  induction pieces generalizing d with
  | nil =>
    have last : d.Sighted ([] ++ []) := h
    exact last.feed.1 e (StreamDecoder.decodeFrom_nil_eq_error_iff.mp failed)
  | cons piece pieces ih =>
    rw [List.flatten_cons] at h
    rcases StreamDecoder.decodeFrom_cons_eq_error_iff.mp failed with fed | ⟨text, d', fed, later⟩
    · exact h.feed.1 e fed
    · exact ih (h.feed.2 text d' fed) later

end Decoder

/-! ## Files that fail to be read -/

/-- What is left of a source that gives bytes and then fails. -/
def Source.Fails (s : Source) (text : String) : Prop :=
  s = [.failure text] ∨ ∃ b bs, s = [.bytes (b :: bs), .failure text]

theorem Source.Fails.answer {s s' : Source} {text : String} {limit : Nat} {bs : List UInt8}
    (h : s.Fails text) (hl : 1 ≤ limit) (answered : s.answer limit = (.bytes bs, s')) :
    bs ≠ [] ∧ s'.Fails text := by
  rcases h with rfl | ⟨b, held, rfl⟩
  · cases answered
  · rw [Source.answer] at answered
    split at answered
    · cases answered
      exact ⟨by simp, .inl rfl⟩
    · rename_i more
      obtain ⟨rfl, rfl⟩ := by simpa using answered
      obtain ⟨c, rest, left⟩ := List.exists_cons_of_ne_nil (mt List.drop_eq_nil_iff.mp more)
      exact ⟨by simp; omega, .inr ⟨c, rest, by rw [left]⟩⟩

theorem Source.Fails.ne_nothing {s s' : Source} {text : String} {limit : Nat} (h : s.Fails text) :
    s.answer limit ≠ (.nothing, s') := by
  rcases h with rfl | ⟨b, held, rfl⟩
  · simp [Source.answer]
  · rw [Source.answer]
    split <;> simp

namespace NulReader

variable {r r₁ : NulReader} {text : String}

theorem draw_fails (fails : r.source.Fails text) {limit : Nat} (hl : 1 ≤ limit)
    {bs : List UInt8} (drawn : r.draw limit = (.ok bs, r₁)) :
    bs ≠ [] ∧ r₁.source.Fails text := by
  unfold draw pull at drawn
  rcases answered : r.source.answer limit with ⟨given | _ | message, source⟩
  · obtain ⟨some_, fails⟩ := fails.answer hl answered
    simp only [reset, answered] at drawn
    split at drawn
    · cases drawn
    · rename_i inspected
      obtain ⟨same, -, -⟩ := inspect_ok inspected
      cases drawn
      exact ⟨some_, same ▸ fails⟩
  · exact absurd answered fails.ne_nothing
  · simp [reset, answered] at drawn

/-- A block of a source that fails in the end is not empty, and the source has yet to fail. -/
theorem readBlock_fails (fails : r.source.Fails text) {length : Int} {block : List UInt8}
    (read : r.readBlock length = (.ok block, r₁)) : block ≠ [] ∧ r₁.source.Fails text := by
  obtain ⟨hl, clear, served⟩ := readBlock_ok read
  by_cases held : length.toNat ≤ r.unread.length
  · rw [serve_buffered clear held] at served
    cases served
    refine ⟨fun none => ?_, fails⟩
    have := congrArg List.length none
    simp only [List.length_take, List.length_nil] at this
    omega
  · obtain ⟨missing, size⟩ := Nat.exists_eq_add_of_le (Nat.le_of_not_le held)
    have some_ : 0 < missing := by omega
    rw [serve_eq_draw clear size some_] at served
    rcases drawn : r.draw (max missing r.capacity) with ⟨e | bs, r₂⟩
    · simp [drawn] at served
    · obtain ⟨given, fails⟩ := draw_fails fails (by omega) drawn
      rw [drawn] at served
      cases served
      refine ⟨fun none => ?_, fails⟩
      rcases List.take_eq_nil_iff.mp (List.append_eq_nil_iff.mp none).2 with zero | empty
      · omega
      · exact given empty

end NulReader

/-- Whether a file of some size can be opened and read to its end. -/
def FileAccess.ReadsAll (size : Nat) : FileAccess → Prop
  | .sound => True
  | .closed _ => False
  | .failsAfter limit => size < limit

theorem FileAccess.ReadsAll.source_eq {content : List UInt8} {access : FileAccess}
    (h : access.ReadsAll content.length) :
    Node.source content access = Node.source content .sound ∧ ∀ cause, access ≠ .closed cause := by
  cases access with
  | sound => exact ⟨rfl, by simp⟩
  | closed cause => exact h.elim
  | failsAfter limit => exact ⟨if_pos h, by simp⟩

/-- A file that can be opened, but not read to its end, is a source that fails. -/
theorem FileAccess.fails_of_not_readsAll {content : List UInt8} {access : FileAccess}
    (h : ¬ access.ReadsAll content.length) (opened : ∀ cause, access ≠ .closed cause) :
    (Node.source content access).Fails DiskCause.inputOutput.shown := by
  cases access with
  | sound => exact absurd trivial h
  | closed cause => exact absurd rfl (opened cause)
  | failsAfter limit =>
    have within : limit ≤ content.length := Nat.le_of_not_lt h
    rw [Node.source, if_neg (Nat.not_lt.mpr within)]
    by_cases zero : limit = 0
    · exact .inl (by simp [zero])
    · cases content with
      | nil => exact absurd (Nat.le_zero.mp within) zero
      | cons b bs =>
        obtain ⟨n, rfl⟩ := Nat.exists_eq_succ_of_ne_zero zero
        exact .inr ⟨b, bs.take n, by simp⟩

/-- Whether a source gives no bytes only once it has none left, or fails before. -/
def Source.Exhausts (s : Source) : Prop := s.Ending ∨ ∃ text, s.Fails text

theorem Node.exhausts_source (content : List UInt8) (access : FileAccess)
    (opened : ∀ cause, access ≠ .closed cause) : (Node.source content access).Exhausts := by
  by_cases reads : access.ReadsAll content.length
  · rw [reads.source_eq.1]
    exact .inl ⟨trivial, fun _ => rfl⟩
  · exact .inr ⟨_, FileAccess.fails_of_not_readsAll reads opened⟩

theorem Source.Exhausts.pending_nil {r r₁ : NulReader} {length : Int}
    (h : r.source.Exhausts) (read : r.readBlock length = (.ok [], r₁)) : r.pending = [] := by
  rcases h with ending | ⟨text, fails⟩
  · exact NulReader.pending_of_readBlock_nil read ending
  · exact absurd rfl (NulReader.readBlock_fails fails read).1

theorem Source.Exhausts.readBlock {r r₁ : NulReader} {length : Int} {block : List UInt8}
    (h : r.source.Exhausts) (read : r.readBlock length = (.ok block, r₁)) :
    r₁.source.Exhausts := by
  rcases h with ending | ⟨text, fails⟩
  · obtain ⟨-, clear, served⟩ := NulReader.readBlock_ok read
    have proceeds : r.Proceeds (.ok block, r₁) := served ▸ NulReader.serve_proceeds clear _
    cases proceeds with
    | hands draws => exact .inl (draws.ending ending)
  · exact .inr ⟨text, (NulReader.readBlock_fails fails read).2⟩

/-! ## Decoders that ask nothing of the system -/

/-- Whether a decoder has no fault that is a refusal of the system. -/
def StreamDecoder.NeverRefuses (way : StreamDecoder) : Prop :=
  ∀ d piece final e, way.feed d piece final = .error e → e.kind ≠ .denied ∧ e.kind ≠ .system

theorem Decoder.kind_of_settle {codec : Codec} {final : Bool} {pos : Nat} {data : List UInt8}
    {e : DecodeFault} (failed : settle codec final pos data = .error e) :
    e.kind = .undecodable := by
  unfold settle at failed
  cases decoded : codec.decode final pos data with
  | error e' =>
    rw [decoded] at failed
    cases failed
    exact Codec.kind_of_decode decoded
  | ok out => simp [decoded] at failed

theorem Decoder.kind_of_assume {mode : DecoderMode} {codec : Codec} {width : Nat} {final : Bool}
    {data : List UInt8} {e : DecodeFault} (failed : assume mode codec width final data = .error e) :
    e.kind = .undecodable ∨ e.kind = .value := by
  unfold assume at failed
  split at failed
  · rename_i decoded
    cases failed
    exact .inl (Codec.kind_of_decode decoded)
  · split at failed
    · cases failed
    · cases failed
      exact .inr rfl

/-- No encoding that is known here asks anything of the system. -/
theorem Encoding.neverRefuses (encoding : Encoding) : encoding.stream.NeverRefuses := by
  intro d piece final e failed
  have kind : e.kind = .undecodable ∨ e.kind = .value := by
    change Decoder.feed d piece final = .error e at failed
    unfold Decoder.feed at failed
    dsimp only at failed
    repeat' split at failed
    all_goals first
      | exact .inl (Decoder.kind_of_settle failed)
      | exact Decoder.kind_of_assume failed
      | cases failed
  rcases kind with kind | kind <;> simp [kind]

/-! ## Contents that a decoder fails on as a scan expects -/

/-- Whether a decoder fails on a content, if at all, in a way that a scan expects, whatever the
pieces in which the content comes. -/
def StreamDecoder.Graceful (way : StreamDecoder) (content : List UInt8) : Prop :=
  ∀ pieces e, pieces.flatten = content → way.decode pieces = .error e → e.kind.Expected

/-- An encoding that is known here lets no content fail otherwise but for want of a mark. -/
theorem Encoding.graceful {encoding : Encoding} {content : List UInt8}
    (marked : encoding.Marked content) : encoding.stream.Graceful content := by
  rintro pieces e rfl failed
  have sighted : encoding.decoder.Sighted pieces.flatten := by
    cases encoding with
    | utf16 => exact marked
    | utf32 => exact marked
    | _ => trivial
  rw [sighted.kind_of_decodeFrom failed]
  trivial

namespace Checker

variable {way : StreamDecoder} {source : Source} {e : DecodeFault}

/-- The decoder whose fault ends a check has that fault on some pieces of what was to be read. -/
theorem decodeFrom_of_checkFrom {blockSize : Int} {r : NulReader} (exhausts : r.source.Exhausts)
    (d : way.State) (t : Tracker) (tabs : List Position)
    (ends : (checkFrom way blockSize r d t tabs).1 = .error (.decoding e)) :
    ∃ pieces, pieces.flatten = r.pending ∧ way.decodeFrom d pieces = .error e := by
  fun_induction checkFrom way blockSize r d t tabs with
  | case1 r d t tabs fault r₁ read => cases ends
  | case2 r d t tabs r₁ read e' failed =>
    cases ends
    refine ⟨[], (exhausts.pending_nil read).symm, ?_⟩
    exact StreamDecoder.decodeFrom_nil_eq_error_iff.mpr failed
  | case3 r d t tabs r₁ read text d₁ fed => cases ends
  | case4 r d t tabs b bs r₁ read e' failed =>
    cases ends
    refine ⟨[b :: bs, r₁.pending], by simpa using (NulReader.pending_readBlock read).symm, ?_⟩
    exact StreamDecoder.decodeFrom_cons_eq_error_iff.mpr (.inl failed)
  | case5 r d t tabs b bs r₁ read text d₁ fed ih =>
    obtain ⟨pieces, rest, failed⟩ := ih (exhausts.readBlock read) ends
    refine ⟨(b :: bs) :: pieces, ?_,
      StreamDecoder.decodeFrom_cons_eq_error_iff.mpr (.inr ⟨text, d₁, fed, failed⟩)⟩
    rw [List.flatten_cons, rest, NulReader.pending_readBlock read]

/-- A content that a decoder fails on gracefully, if at all, is not what a scan does not expect. -/
theorem checkWith_graceful {threshold bufferSize : Nat} (ht : 1 ≤ threshold)
    (hb : 1 ≤ bufferSize) (exhausts : source.Exhausts) (graceful : way.Graceful source.content)
    (ends : (checkWith way threshold bufferSize source).1 = .error (.decoding e)) :
    e.kind.Expected := by
  have opened := Session.open_eq source ht hb
  cases full : memoryFault? bufferSize with
  | some fault =>
    rw [checkWith_too_large way ht hb full] at ends
    cases ends
  | none =>
    rw [full] at opened
    rw [checkWith, opened] at ends
    obtain ⟨pieces, whole, failed⟩ := decodeFrom_of_checkFrom exhausts _ _ _ ends
    exact graceful pieces e whole failed

theorem kind_of_checkFrom (apart : way.NeverRefuses) {blockSize : Int} {r : NulReader}
    {d : way.State} {t : Tracker} {tabs : List Position}
    (ends : (checkFrom way blockSize r d t tabs).1 = .error (.decoding e)) :
    e.kind ≠ .denied ∧ e.kind ≠ .system := by
  fun_induction checkFrom way blockSize r d t tabs with
  | case1 r d t tabs fault r₁ read => cases ends
  | case2 r d t tabs r₁ read e' failed =>
    cases ends
    exact apart _ _ _ _ failed
  | case3 r d t tabs r₁ read text d₁ fed => cases ends
  | case4 r d t tabs b bs r₁ read e' failed =>
    cases ends
    exact apart _ _ _ _ failed
  | case5 r d t tabs b bs r₁ read text d₁ fed ih => exact ih ends

theorem kind_of_checkWith (apart : way.NeverRefuses) {threshold bufferSize : Int}
    (ends : (checkWith way threshold bufferSize source).1 = .error (.decoding e)) :
    e.kind ≠ .denied ∧ e.kind ≠ .system := by
  unfold checkWith at ends
  split at ends
  · cases ends
  · exact kind_of_checkFrom apart ends

/-! ## Files on disk -/

theorem check_eq (c : Checker) (ht : 1 ≤ c.threshold) (hb : 1 ≤ c.bufferSize) (source : Source) :
    c.check source =
      checkWith c.encoding.stream (c.threshold.toNat : Nat) (c.bufferSize.toNat : Nat) source := by
  rw [check, Int.toNat_of_nonneg (by omega), Int.toNat_of_nonneg (by omega)]

/-- A file that can be opened is checked as what is read from it. -/
theorem checkNode_opened {c : Checker} {shown : String} {content : List UInt8}
    {access : FileAccess} (opened : ∀ cause, access ≠ .closed cause) :
    (c.checkNode shown (.file content access)).1 =
      (c.check (Node.source content access)).1.mapError .check := by
  cases access with
  | closed cause => exact absurd rfl (opened cause)
  | sound =>
    simp only [checkNode]
    rcases c.check (Node.source content .sound) with ⟨e | _ | ⟨tab, tabs⟩, log⟩ <;> rfl
  | failsAfter size =>
    simp only [checkNode]
    rcases c.check (Node.source content (.failsAfter size)) with ⟨e | _ | ⟨tab, tabs⟩, log⟩ <;> rfl

/-- The check of a file fails where it cannot be opened or its content fails the check. -/
theorem fault_of_checkNode {c : Checker} {shown : String} {content : List UInt8}
    {access : FileAccess} {fault : FileFault}
    (ends : (c.checkNode shown (.file content access)).1 = .error fault) :
    (∃ cause, fault = .disk (.refused cause shown)) ∨
      (∀ cause, access ≠ .closed cause) ∧
        ∃ e, (c.check (Node.source content access)).1 = .error e ∧ fault = .check e := by
  by_cases opened : ∀ cause, access ≠ .closed cause
  · rw [checkNode_opened opened] at ends
    cases checked : (c.check (Node.source content access)).1 with
    | error e =>
      rw [checked] at ends
      cases ends
      exact .inr ⟨opened, e, rfl, rfl⟩
    | ok tabs =>
      rw [checked] at ends
      cases ends
  · obtain ⟨cause, rfl⟩ : ∃ cause, access = .closed cause := by simpa using opened
    cases ends
    exact .inl ⟨cause, rfl⟩

/-- The check of a file that a decoder does not fail on otherwise ends in a way that a scan
expects. -/
theorem settles_file (c : Checker) (ht : 1 ≤ c.threshold) (hb : 1 ≤ c.bufferSize)
    (fits : memoryFault? c.bufferSize.toNat = none) {content : List UInt8} {access : FileAccess}
    (graceful : (∀ cause, access ≠ .closed cause) →
      c.encoding.stream.Graceful (Node.source content access).content) (shown : String) :
    c.Settles shown (.file content access) := by
  intro fault ends
  rcases fault_of_checkNode ends with ⟨cause, rfl⟩ | ⟨opened, e, checked, rfl⟩
  · trivial
  rw [c.check_eq ht hb] at checked
  have threshold : 1 ≤ c.threshold.toNat := by omega
  have size : 1 ≤ c.bufferSize.toNat := by omega
  have arises := checkWith_arises threshold size fits checked
  cases e with
  | opening fault => exact arises.elim
  | reading fault =>
    cases fault with
    | nulRun first => trivial
    | source text => trivial
    | closed => exact arises.elim
    | lengthNotPositive length => exact arises.elim
    | memory fault => exact arises.elim
  | decoding e =>
    exact checkWith_graceful threshold size (Node.exhausts_source content access opened)
      (graceful opened) checked

end Checker

end TabAudit
