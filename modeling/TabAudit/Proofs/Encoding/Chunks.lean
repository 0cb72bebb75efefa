import TabAudit.Encoding.Decoder
import TabAudit.Proofs.Encoding.Codec

/-!
# Decoding a stream in pieces

A way to decode is chunk invariant when the pieces of a stream make no difference to its text and
to whether it has one. It is enough that one piece may be split off the front (`feed_append`), and
each mode of a decoder allows that: what it keeps is put in front of the next piece, and it takes a
mark for one only when all of it is there.
-/

namespace TabAudit

namespace StreamDecoder

variable (way : StreamDecoder)

/-- The text of pieces in a row, with the end of the stream after them. -/
def decodeFrom (d : way.State) : List (List UInt8) → Except DecodeFault (List Char)
  | [] => (way.feed d [] true).map Prod.fst
  | piece :: pieces =>
    match way.feed d piece false with
    | .error e => .error e
    | .ok (text, d) => (decodeFrom d pieces).map (text ++ ·)

/-- The text of a stream that comes in pieces. -/
def decode (pieces : List (List UInt8)) : Except DecodeFault (List Char) :=
  way.decodeFrom way.start pieces

/-- The text of a stream that comes in one piece, if it has one. -/
def whole (content : List UInt8) : Option (List Char) := (way.decode [content]).toOption

/-- The pieces in which a stream comes change neither its text nor whether it has one. -/
def ChunkInvariant : Prop := ∀ pieces, (way.decode pieces).toOption = way.whole pieces.flatten

variable {way} in
/-- Where the pieces make no difference, the text of a stream is that of the whole. -/
theorem ChunkInvariant.decode_eq_ok_iff (h : way.ChunkInvariant) {pieces : List (List UInt8)}
    {text : List Char} : way.decode pieces = .ok text ↔ way.whole pieces.flatten = some text := by
  rw [← h pieces]
  cases way.decode pieces <;> simp [Except.toOption]

/-- The text of a last piece, if it has one. -/
def last (d : way.State) (piece : List UInt8) : Option (List Char) :=
  (way.feed d piece true).toOption.map Prod.fst

/-- A piece may be split off the front of the last one. -/
def Splits : Prop := ∀ d piece rest, way.last d (piece ++ rest) =
  (way.feed d piece false).toOption.bind fun (text, d) => (way.last d rest).map (text ++ ·)

variable {way}

theorem toOption_map {ε α β : Type} (f : α → β) (x : Except ε α) :
    (x.map f).toOption = x.toOption.map f := by
  cases x <;> rfl

theorem Splits.decodeFrom (h : way.Splits) (d : way.State) (pieces : List (List UInt8)) :
    (way.decodeFrom d pieces).toOption = way.last d pieces.flatten := by
  induction pieces generalizing d with
  | nil => exact toOption_map _ _
  | cons piece pieces ih =>
    rw [List.flatten_cons, h, StreamDecoder.decodeFrom]
    cases way.feed d piece false with
    | error e => rfl
    | ok out => exact (toOption_map _ _).trans (congrArg _ (ih out.2))

theorem Splits.whole (h : way.Splits) (content : List UInt8) :
    way.whole content = way.last way.start content := by
  have one := h.decodeFrom way.start [content]
  rwa [List.flatten_singleton] at one

theorem Splits.chunkInvariant (h : way.Splits) : way.ChunkInvariant := by
  intro pieces
  rw [h.whole]
  exact h.decodeFrom way.start pieces

end StreamDecoder

namespace Codec

/-! ## Units -/

variable {c : Codec} {final : Bool} {b : UInt8} {bs : List UInt8}

/-- A codec whose characters take at least `size` bytes, and that waits when there are fewer. -/
structure Units (c : Codec) (size : Nat) : Prop where
  positive : 1 ≤ size
  char {b : UInt8} {bs : List UInt8} {ch : Char} {more : Nat} :
    c.next b bs = .char ch more → size ≤ more + 1
  short {b : UInt8} {bs : List UInt8} : bs.length + 1 < size → (c.next b bs).Waits

theorem units_utf16 (bigEndian : Bool) : (utf16 bigEndian).Units 2 where
  positive := by decide
  char := by
    intro b bs ch more h
    unfold next nextUtf16 at h
    grind
  short := by
    intro b bs h
    rcases bs with _ | ⟨b₂, bs⟩
    · trivial
    · simp only [List.length_cons] at h
      omega

theorem units_utf32 (bigEndian : Bool) : (utf32 bigEndian).Units 4 where
  positive := by decide
  char := by
    intro b bs ch more h
    unfold next nextUtf32 at h
    grind
  short := by
    intro b bs h
    rcases bs with _ | ⟨b₂, _ | ⟨b₃, _ | ⟨b₄, rest⟩⟩⟩
    · trivial
    · trivial
    · trivial
    · simp only [List.length_cons] at h
      omega

theorem length_kept_le {data kept : List UInt8} {text : List Char}
    (h : c.decode? final data = some (text, kept)) : kept.length ≤ data.length := by
  induction hn : data.length using Nat.strongRecOn generalizing data text with
  | _ n ih =>
    cases data with
    | nil =>
      obtain ⟨-, rfl⟩ := by simpa using h
      exact Nat.zero_le _
    | cons b bs =>
      cases hv : c.next b bs with
      | char ch more =>
        rw [decode?_char hv] at h
        obtain ⟨rest, hr, -⟩ :
            ∃ rest, c.decode? final (bs.drop more) = some (rest, kept) ∧ ch :: rest = text := by
          simpa using h
        have hl : (bs.drop more).length < n := by simp at hn ⊢; omega
        have := ih _ hl hr rfl
        omega
      | wait size reason =>
        rw [decode?_wait hv] at h
        cases final with
        | true => simp at h
        | false =>
          obtain ⟨-, rfl⟩ := by simpa using h
          exact Nat.le_of_eq hn
      | bad size reason => simp [decode?_bad hv] at h

end Codec

namespace Decoder

/-! ## Bytes that are cut off the front -/

variable {mode : DecoderMode} {data : List UInt8} {codec : Codec} {width : Nat}

/-- The text of a last piece, if it has one. -/
def last (d : Decoder) (piece : List UInt8) : Option (List Char) :=
  (d.feed piece true).toOption.map Prod.fst

/-- In a mode, bytes may be cut off the front. -/
def Cuts (mode : DecoderMode) (data : List UInt8) : Prop :=
  ∀ behind, last ⟨mode, []⟩ (data ++ behind) =
    (feed ⟨mode, []⟩ data false).toOption.bind fun (text, d) => (d.last behind).map (text ++ ·)

/-- What a decoder keeps is put in front of the next piece. -/
theorem last_kept (d : Decoder) (piece : List UInt8) :
    d.last piece = last ⟨d.mode, []⟩ (d.kept ++ piece) := rfl

theorem cuts_of_keeps (h : feed ⟨mode, []⟩ data false = .ok ([], ⟨mode, data⟩)) :
    Cuts mode data := by
  intro behind
  have kept : last ⟨mode, data⟩ behind = last ⟨mode, []⟩ (data ++ behind) := last_kept _ _
  rw [h, ← kept]
  simp [Except.toOption]

theorem cuts_of_fails
    (h : ∀ behind final, (feed ⟨mode, []⟩ (data ++ behind) final).toOption = none) :
    Cuts mode data := by
  intro behind
  have h₁ := h behind true
  have h₂ := h [] false
  rw [List.append_nil] at h₂
  rw [last, h₁, h₂]
  rfl

theorem toOption_settle (final : Bool) (pos : Nat) (data : List UInt8) :
    (settle codec final pos data).toOption =
      (codec.decode? final data).map fun (text, kept) => (text, ⟨.settled codec, kept⟩) := by
  rw [settle, ← Codec.toOption_decode pos]
  cases codec.decode final pos data <;> rfl

theorem last_settled (kept behind : List UInt8) :
    last ⟨.settled codec, kept⟩ behind = (codec.decode? true (kept ++ behind)).map Prod.fst := by
  rw [last, feed]
  simp [toOption_settle, Function.comp_def]

theorem cuts_of_settles {pos : Nat} {rest : List UInt8}
    (h : ∀ behind final,
      feed ⟨mode, []⟩ (data ++ behind) final = settle codec final pos (rest ++ behind)) :
    Cuts mode data := by
  intro behind
  have h₁ := h behind true
  have h₂ := h [] false
  rw [List.append_nil, List.append_nil] at h₂
  rw [last, h₁, h₂, toOption_settle, toOption_settle, Codec.decode?_append]
  cases codec.decode? false rest with
  | none => rfl
  | some out =>
    simp only [Option.bind_some, Option.map_some, last_settled]
    cases codec.decode? true (out.2 ++ behind) <;> rfl

/-! ## Looking for a mark -/

variable {b : UInt8} {bs : List UInt8}

theorem assume_nil (final : Bool) (units : codec.Units (width / 8)) :
    assume mode codec width final [] = .ok ([], ⟨mode, []⟩) := by
  have := units.positive
  rw [assume, Codec.decode]
  exact if_pos (by simp; omega)

theorem assume_keeps (units : codec.Units (width / 8)) (h : (codec.next b bs).Waits) :
    assume mode codec width false (b :: bs) = .ok ([], ⟨mode, b :: bs⟩) := by
  have := units.positive
  rw [assume, Codec.decode]
  cases hv : codec.next b bs with
  | wait size reason => exact if_pos (by simp; omega)
  | char ch more => simp [hv, Verdict.Waits] at h
  | bad size reason => simp [hv, Verdict.Waits] at h

/-- A character shows that the mark is missing. -/
theorem assume_fails (units : codec.Units (width / 8)) {final : Bool}
    (h : (codec.next b bs).Waits → final = true) :
    (assume mode codec width final (b :: bs)).toOption = none := by
  unfold assume
  cases hd : codec.decode final 0 (b :: bs) with
  | error e => rfl
  | ok out =>
    have hd : codec.decode? final (b :: bs) = some out := by rw [Codec.decode?, hd]; rfl
    cases hv : codec.next b bs with
    | char ch more =>
      -- Even if all bytes behind the character are kept, it alone is as wide as a mark.
      rw [Codec.decode?_char hv] at hd
      obtain ⟨rest, hr, -⟩ :
          ∃ rest, codec.decode? final (bs.drop more) = some (rest, out.2) ∧ ch :: rest = out.1 := by
        cases out
        simpa using hd
      have few := Codec.length_kept_le hr
      have size := units.char hv
      have there := Codec.more_le_length hv
      rw [List.length_drop] at few
      refine congrArg Except.toOption (if_neg ?_)
      simp only [List.length_cons]
      omega
    | wait size reason =>
      have := h (by rw [hv]; trivial)
      simp [Codec.decode?_wait hv, this] at hd
    | bad size reason => simp [Codec.decode?_bad hv] at hd

/-- A mode that looks for two marks, and reads on with a codec while one may still come. -/
structure Looks (mode : DecoderMode) (width : Nat) (codec : Codec) (m₁ m₂ : List UInt8) :
    Prop where
  units : codec.Units (width / 8)
  length₁ : m₁.length = width / 8
  length₂ : m₂.length = width / 8
  first : ∃ c pos, ∀ rest final, feed ⟨mode, []⟩ (m₁ ++ rest) final = settle c final pos rest
  second : ∃ c pos, ∀ rest final, feed ⟨mode, []⟩ (m₂ ++ rest) final = settle c final pos rest
  neither : ∀ data final, ¬ m₁ <+: data → ¬ m₂ <+: data →
    feed ⟨mode, []⟩ data final = assume mode codec width final data

theorem looks_mark16 : Looks .mark16 16 (.utf16 false) [0xFF, 0xFE] [0xFE, 0xFF] where
  units := Codec.units_utf16 false
  length₁ := rfl
  length₂ := rfl
  first := ⟨_, _, fun _ _ => rfl⟩
  second := ⟨_, _, fun _ _ => rfl⟩
  neither data final h₁ h₂ := by
    simp only [feed, List.nil_append]
    split <;> simp_all

theorem looks_mark32 :
    Looks .mark32 32 (.utf32 false) [0xFF, 0xFE, 0, 0] [0, 0, 0xFE, 0xFF] where
  units := Codec.units_utf32 false
  length₁ := rfl
  length₂ := rfl
  first := ⟨_, _, fun _ _ => rfl⟩
  second := ⟨_, _, fun _ _ => rfl⟩
  neither data final h₁ h₂ := by
    simp only [feed, List.nil_append]
    split <;> simp_all

theorem Looks.cuts {m₁ m₂ : List UInt8} (h : Looks mode width codec m₁ m₂) (data : List UInt8) :
    Cuts mode data := by
  by_cases h₁ : m₁ <+: data
  · obtain ⟨rest, rfl⟩ := h₁
    obtain ⟨c, pos, first⟩ := h.first
    exact cuts_of_settles fun behind final => (List.append_assoc .. ▸ first _ _)
  by_cases h₂ : m₂ <+: data
  · obtain ⟨rest, rfl⟩ := h₂
    obtain ⟨c, pos, second⟩ := h.second
    exact cuts_of_settles fun behind final => (List.append_assoc .. ▸ second _ _)
  cases data with
  | nil => exact cuts_of_keeps ((h.neither _ _ h₁ h₂).trans (assume_nil false h.units))
  | cons b bs =>
    by_cases hw : (codec.next b bs).Waits
    · exact cuts_of_keeps ((h.neither _ _ h₁ h₂).trans (assume_keeps h.units hw))
    -- The bytes that do not wait are as many as a mark has, so no mark comes with those behind.
    have long : width / 8 ≤ (b :: bs).length := by
      refine Nat.le_of_not_lt fun short => hw (h.units.short ?_)
      simpa using short
    refine cuts_of_fails fun behind final => ?_
    have none₁ : ¬ m₁ <+: b :: bs ++ behind := fun mark =>
      h₁ (List.prefix_of_prefix_length_le mark (List.prefix_append _ _) (h.length₁ ▸ long))
    have none₂ : ¬ m₂ <+: b :: bs ++ behind := fun mark =>
      h₂ (List.prefix_of_prefix_length_le mark (List.prefix_append _ _) (h.length₂ ▸ long))
    rw [h.neither _ _ none₁ none₂]
    have still : codec.next b (bs ++ behind) = codec.next b bs := Codec.next_append rfl hw behind
    exact assume_fails h.units fun waits => absurd (still ▸ waits) hw

theorem feed_signature (data : List UInt8) (final : Bool) :
    feed ⟨.signature, []⟩ data final =
      if signatureBytes <+: data then settle .utf8 final 0 (data.drop 3)
      else if data <+: signatureBytes then .ok ([], ⟨.signature, data⟩)
      else settle .utf8 final 0 data := by
  have hl : signatureBytes.length = 3 := rfl
  by_cases short : data.length < 3
  · have other : ¬ signatureBytes <+: data := fun h => by
      have := h.length_le
      omega
    rw [if_neg other]
    simp [feed, short]
  · by_cases hw : data <+: signatureBytes
    · obtain rfl := hw.eq_of_length_le (by omega)
      rfl
    · simp [feed, short, hw]

/-- A signature is waited for only as long as it may still come. -/
theorem cuts_signature (data : List UInt8) : Cuts .signature data := by
  by_cases hs : signatureBytes <+: data
  · obtain ⟨rest, rfl⟩ := hs
    have settles (behind : List UInt8) (final : Bool) :
        feed ⟨.signature, []⟩ (signatureBytes ++ rest ++ behind) final =
          settle .utf8 final 0 (rest ++ behind) := by
      rw [feed_signature, List.append_assoc, if_pos (List.prefix_append _ _)]
      rfl
    exact cuts_of_settles settles
  by_cases hw : data <+: signatureBytes
  · refine cuts_of_keeps ?_
    rw [feed_signature, if_neg hs, if_pos hw]
  · have settles (behind : List UInt8) (final : Bool) :
        feed ⟨.signature, []⟩ (data ++ behind) final = settle .utf8 final 0 (data ++ behind) := by
      have never : ¬ data ++ behind <+: signatureBytes := fun h =>
        hw ((List.prefix_append _ _).trans h)
      have other : ¬ signatureBytes <+: data ++ behind := fun h =>
        (List.prefix_or_prefix_of_prefix h (List.prefix_append _ _)).elim hs hw
      rw [feed_signature, if_neg other, if_neg never]
    exact cuts_of_settles settles

theorem cuts (mode : DecoderMode) (data : List UInt8) : Cuts mode data := by
  cases mode with
  | settled codec => exact cuts_of_settles fun _ _ => rfl
  | signature => exact cuts_signature data
  | mark16 => exact looks_mark16.cuts data
  | mark32 => exact looks_mark32.cuts data

end Decoder

theorem Encoding.splits (e : Encoding) : e.stream.Splits := fun d piece behind => by
  have h := Decoder.cuts d.mode (d.kept ++ piece) behind
  rw [List.append_assoc] at h
  exact h

/-- The text of a stream in any of the encodings does not depend on its pieces. -/
theorem Encoding.chunkInvariant (e : Encoding) : e.stream.ChunkInvariant :=
  e.splits.chunkInvariant

end TabAudit
