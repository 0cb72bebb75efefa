import TabAudit.Encoding.Codec

/-!
# Decoding a stretch that is cut in two

What the bytes in front give does not change when more bytes come behind, once it is a character or
a fault. So a stretch may be cut anywhere: what the first part keeps is decoded with the second.
-/

namespace TabAudit

/-- A verdict that may be another once more bytes are there. -/
def Verdict.Waits : Verdict → Prop
  | .wait .. => True
  | _ => False

namespace Codec

/-! ## Bytes behind those that matter -/

variable {b : UInt8} {bs : List UInt8}

theorem nextUtf8_append (h : ¬ (nextUtf8 b bs).Waits) (behind : List UInt8) :
    nextUtf8 b (bs ++ behind) = nextUtf8 b bs := by
  unfold nextUtf8 at h ⊢
  rcases bs with _ | ⟨b₂, _ | ⟨b₃, _ | ⟨b₄, rest⟩⟩⟩ <;>
    simp only [List.nil_append, List.cons_append] at h ⊢ <;> grind [Verdict.Waits]

theorem nextUtf16_append {bigEndian : Bool} (h : ¬ (nextUtf16 bigEndian b bs).Waits)
    (behind : List UInt8) :
    nextUtf16 bigEndian b (bs ++ behind) = nextUtf16 bigEndian b bs := by
  unfold nextUtf16 at h ⊢
  rcases bs with _ | ⟨b₂, _ | ⟨b₃, _ | ⟨b₄, rest⟩⟩⟩ <;>
    simp only [List.nil_append, List.cons_append] at h ⊢ <;> grind [Verdict.Waits]

theorem nextUtf32_append {bigEndian : Bool} (h : ¬ (nextUtf32 bigEndian b bs).Waits)
    (behind : List UInt8) :
    nextUtf32 bigEndian b (bs ++ behind) = nextUtf32 bigEndian b bs := by
  unfold nextUtf32 at h ⊢
  rcases bs with _ | ⟨b₂, _ | ⟨b₃, _ | ⟨b₄, rest⟩⟩⟩ <;>
    simp only [List.nil_append, List.cons_append] at h ⊢ <;> grind [Verdict.Waits]

/-- Bytes behind change a verdict only while it waits for them. -/
theorem next_append {c : Codec} {v : Verdict} (hv : c.next b bs = v) (h : ¬ v.Waits)
    (behind : List UInt8) : c.next b (bs ++ behind) = v := by
  subst hv
  cases c with
  | utf8 => exact nextUtf8_append h behind
  | ascii => rfl
  | latin1 => rfl
  | windows1252 => rfl
  | utf16 bigEndian => exact nextUtf16_append h behind
  | utf32 bigEndian => exact nextUtf32_append h behind

/-- The bytes of a character are there. -/
theorem more_le_length {c : Codec} {ch : Char} {more : Nat} (h : c.next b bs = .char ch more) :
    more ≤ bs.length := by
  cases c with
  | utf8 =>
    unfold next nextUtf8 at h
    rcases bs with _ | ⟨b₂, _ | ⟨b₃, _ | ⟨b₄, rest⟩⟩⟩ <;> simp only [List.length] at h ⊢ <;> grind
  | ascii => grind [next]
  | latin1 => grind [next]
  | windows1252 => grind [next, nextWindows1252]
  | utf16 bigEndian =>
    unfold next nextUtf16 at h
    rcases bs with _ | ⟨b₂, _ | ⟨b₃, _ | ⟨b₄, rest⟩⟩⟩ <;> simp only [List.length] at h ⊢ <;> grind
  | utf32 bigEndian =>
    unfold next nextUtf32 at h
    rcases bs with _ | ⟨b₂, _ | ⟨b₃, _ | ⟨b₄, rest⟩⟩⟩ <;> simp only [List.length] at h ⊢ <;> grind

/-! ## A stretch in two parts -/

/-- The characters of a stretch and the bytes it keeps, if there is no fault in it. -/
def decode? (c : Codec) (final : Bool) (data : List UInt8) : Option (List Char × List UInt8) :=
  (c.decode final 0 data).toOption

variable {c : Codec} {final : Bool}

theorem toOption_decode_char {ch : Char} {more : Nat} (h : c.next b bs = .char ch more)
    (pos : Nat) :
    (c.decode final pos (b :: bs)).toOption =
      (c.decode final (pos + 1 + more) (bs.drop more)).toOption.map
        fun (text, kept) => (ch :: text, kept) := by
  rw [decode]
  simp only [h]
  cases c.decode final (pos + 1 + more) (bs.drop more) <;> rfl

/-- Where a stretch stands matters only to the wording of its faults. -/
theorem toOption_decode (pos : Nat) (data : List UInt8) :
    (c.decode final pos data).toOption = c.decode? final data := by
  unfold decode?
  generalize 0 = other
  -- A character takes several bytes at once, so the induction is on how many there are.
  induction h : data.length using Nat.strongRecOn generalizing data pos other with
  | _ n ih =>
    cases data with
    | nil => simp [decode]
    | cons b bs =>
      cases hv : c.next b bs with
      | char ch more =>
        have hl : (bs.drop more).length < n := by simp at h ⊢; omega
        rw [toOption_decode_char hv, toOption_decode_char hv, ih _ hl _ _ _ rfl]
      | wait size reason =>
        rw [decode, decode]
        simp only [hv]
        cases final <;> rfl
      | bad size reason =>
        rw [decode, decode]
        simp only [hv]
        rfl

@[simp] theorem decode?_nil : c.decode? final [] = some ([], []) := by
  simp [decode?, decode, Except.toOption]

theorem decode?_char {ch : Char} {more : Nat} (h : c.next b bs = .char ch more) :
    c.decode? final (b :: bs) =
      (c.decode? final (bs.drop more)).map fun (text, kept) => (ch :: text, kept) := by
  rw [decode?, toOption_decode_char h, toOption_decode]

theorem decode?_wait {size : Nat} {reason : DecodeReason} (h : c.next b bs = .wait size reason) :
    c.decode? final (b :: bs) = if final then none else some ([], b :: bs) := by
  rw [decode?, decode]
  simp only [h]
  cases final <;> rfl

theorem decode?_bad {size : Nat} {reason : DecodeReason} (h : c.next b bs = .bad size reason) :
    c.decode? final (b :: bs) = none := by
  rw [decode?, decode]
  simp only [h]
  rfl

/-- A stretch may be cut in two: what the first part keeps is decoded in front of the second. -/
theorem decode?_append (a behind : List UInt8) :
    c.decode? final (a ++ behind) = (c.decode? false a).bind fun (text, kept) =>
      (c.decode? final (kept ++ behind)).map fun (more, rest) => (text ++ more, rest) := by
  induction h : a.length using Nat.strongRecOn generalizing a with
  | _ n ih =>
    cases a with
    | nil => simp [decode?_nil]
    | cons b bs =>
      cases hv : c.next b bs with
      | char ch more =>
        have still := next_append hv not_false behind
        have fits := more_le_length hv
        have ih := ih (bs.drop more).length (by simp at h ⊢; omega) (bs.drop more) rfl
        rw [List.cons_append, decode?_char still, decode?_char hv,
          List.drop_append_of_le_length fits, ih]
        cases c.decode? false (bs.drop more) with
        | none => rfl
        | some out =>
          simp only [Option.bind_some, Option.map_some]
          cases c.decode? final (out.2 ++ behind) <;> rfl
      -- The bytes that wait are all kept, so the second part is decoded with every one of them.
      | wait size reason => simp [decode?_wait hv]
      | bad size reason =>
        have still := next_append hv not_false behind
        rw [List.cons_append, decode?_bad still, decode?_bad hv]
        rfl

end Codec

end TabAudit
