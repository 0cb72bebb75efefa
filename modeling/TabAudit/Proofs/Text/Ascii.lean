import Mathlib
import TabAudit.Proofs.Encoding.Codec
import TabAudit.Text.Hex
import TabAudit.Text.Lines

/-!
# Texts in printable ASCII

A text of lines in printable ASCII stands in a file byte by byte: its bytes decode to it, and its
ends of lines are as they are read.
-/

namespace TabAudit

/-- Whether a character is printable ASCII or ends a line of a file. -/
def IsPrintable (c : Char) : Prop := c = '\n' ∨ 32 ≤ c.toNat ∧ c.toNat < 127

instance (c : Char) : Decidable (IsPrintable c) :=
  inferInstanceAs (Decidable (_ ∨ _))

/-- Whether a text is of lines in printable ASCII. -/
def Printable (s : List Char) : Prop := ∀ c ∈ s, IsPrintable c

instance (s : List Char) : Decidable (Printable s) :=
  inferInstanceAs (Decidable (∀ _ ∈ _, _))

@[simp] theorem printable_nil : Printable [] := by simp [Printable]

@[simp] theorem printable_cons {c : Char} {s : List Char} :
    Printable (c :: s) ↔ IsPrintable c ∧ Printable s := List.forall_mem_cons

@[simp] theorem printable_append {s t : List Char} :
    Printable (s ++ t) ↔ Printable s ∧ Printable t := List.forall_mem_append

@[simp] theorem printable_reverse {s : List Char} : Printable s.reverse ↔ Printable s := by
  simp [Printable]

theorem printable_replicate (n : Nat) : Printable (List.replicate n ' ') := by
  intro c h
  rw [List.eq_of_mem_replicate h]
  decide

theorem printable_flatMap {α : Type} {f : α → List Char} {l : List α}
    (h : ∀ a ∈ l, Printable (f a)) : Printable (l.flatMap f) := by
  intro c member
  obtain ⟨a, here, inside⟩ := List.mem_flatMap.mp member
  exact h a here c inside

/-- Digits in base sixteen are printable in whatever form each of them is. -/
theorem printable_map_hexDigits {f : Char → Char}
    (digit : ∀ n < 16, IsPrintable (f (Nat.digitChar n))) (width n : Nat) :
    Printable ((hexDigits width n).map f) := by
  induction width generalizing n with
  | zero => exact printable_nil
  | succ width ih =>
    rw [hexDigits, List.map_append, printable_append]
    exact ⟨ih _, by simpa using digit _ (Nat.mod_lt n (by decide))⟩

theorem IsPrintable.lt {c : Char} (h : IsPrintable c) : c.toNat < 128 := by
  rcases h with rfl | ⟨-, h⟩
  · decide
  · omega

/-! ## In a file -/

theorem unifyLineEnds_eq_self {s : List Char} (h : '\r' ∉ s) : unifyLineEnds s = s := by
  fun_induction unifyLineEnds s with
  | case1 => rfl
  | case2 rest ih => simp at h
  | case3 rest _ ih => simp at h
  | case4 c rest _ _ ih => rw [ih fun member => h (by simp [member])]

theorem Printable.textAsRead {s : List Char} (h : Printable s) :
    textAsRead (String.ofList s) = String.ofList s := by
  have kept : '\r' ∉ s := fun member => absurd (h '\r' member) (by decide)
  rw [TabAudit.textAsRead, String.toList_ofList, unifyLineEnds_eq_self kept]

theorem toList_loop (bs : ByteArray) (i : Nat) (done : List UInt8) :
    ByteArray.toList.loop bs i done = done.reverse ++ bs.data.toList.drop i := by
  fun_induction ByteArray.toList.loop bs i done with
  | case1 i done more ih =>
    have inside : i < bs.data.toList.length := by simpa using more
    have same : bs.get! i = bs.data.toList[i] := by
      simp only [ByteArray.get!, Array.getElem_toList]
      exact getElem!_pos bs.data i (by simpa using more)
    rw [ih, List.drop_eq_getElem_cons inside, same]
    simp
  | case2 i done ended =>
    have outside : bs.data.toList.length ≤ i := by simpa using ended
    rw [List.drop_eq_nil_of_le outside, List.append_nil]

/-- The bytes of a text are those of its characters. -/
theorem toUTF8_ofList (s : List Char) :
    (String.ofList s).toUTF8.toList = s.flatMap String.utf8EncodeChar := by
  rw [ByteArray.toList, toList_loop, List.drop_zero]
  exact List.toList_data_toByteArray

/-- The bytes of an ASCII text decode to it. -/
theorem Printable.decode {s : List Char} (h : Printable s) :
    Codec.utf8.decode true 0 (String.ofList s).toUTF8.toList = .ok (s, []) := by
  have decoded : Codec.utf8.decode? true (s.flatMap String.utf8EncodeChar) = some (s, []) := by
    induction s with
    | nil => exact Codec.decode?_nil
    | cons c s ih =>
      obtain ⟨here, later⟩ := printable_cons.mp h
      have small := here.lt
      have one : String.utf8EncodeChar c = [UInt8.ofNat c.toNat] :=
        if_pos (show c.toNat ≤ 127 by omega)
      have number : (UInt8.ofNat c.toNat).toNat = c.toNat := by
        rw [UInt8.toNat_ofNat']
        omega
      have next (rest : List UInt8) : Codec.utf8.next (UInt8.ofNat c.toNat) rest = .char c 0 := by
        have low : UInt8.ofNat c.toNat < 0x80 := by
          rw [UInt8.lt_iff_toNat_lt, number]
          exact small
        simp only [Codec.next, Codec.nextUtf8.eq_def, low, if_true, number, Char.ofNat_toNat]
      rw [List.flatMap_cons, one, List.singleton_append, Codec.decode?_char (next _),
        List.drop_zero, ih later]
      rfl
  rw [toUTF8_ofList]
  unfold Codec.decode? at decoded
  cases result : Codec.utf8.decode true 0 (s.flatMap String.utf8EncodeChar) with
  | error e => simp [result, Except.toOption] at decoded
  | ok found => simpa [result, Except.toOption] using decoded

end TabAudit
