import Mathlib
import TabAudit.Json.Read
import TabAudit.Json.Write
import TabAudit.Proofs.Number.Decimal

/-!
# Texts between quotes

What is written for a character is read as that character: as it is, by its letter, by one escape
of four digits, or by the escapes of two surrogates.
-/

namespace TabAudit.Json

/-! ## Escapes of four digits -/

theorem hexDigits_four (n : Nat) :
    ∃ a b c d, hexDigits 4 n = [a, b, c, d] ∧ fourHex? a b c d = some (n % 65536) := by
  refine ⟨_, _, _, _, rfl, ?_⟩
  rw [fourHex?, hexValue?_digitChar (Nat.mod_lt _ (by decide)),
    hexValue?_digitChar (Nat.mod_lt _ (by decide)), hexValue?_digitChar (Nat.mod_lt _ (by decide)),
    hexValue?_digitChar (Nat.mod_lt _ (by decide))]
  simp only [Option.some.injEq]
  omega

theorem unitEscape_eq (n : Nat) (fits : n < 65536) :
    ∃ a b c d, unitEscape n = ['\\', 'u', a, b, c, d] ∧ fourHex? a b c d = some n := by
  obtain ⟨a, b, c, d, digits, value⟩ := hexDigits_four n
  rw [Nat.mod_eq_of_lt fits] at value
  exact ⟨a, b, c, d, by rw [unitEscape, digits], value⟩

section Escapes

variable {opening n high low : Nat} {rest : List Char}

/-- An escape that is no high surrogate is a code point of its own, whatever follows. -/
theorem readText_unit (fits : n < 65536) (single : isHighSurrogate n = false) (more : rest ≠ []) :
    readText opening (unitEscape n ++ rest) = consText (unitPoint n) (readText opening rest) := by
  obtain ⟨a, b, c, d, escape, value⟩ := unitEscape_eq n fits
  obtain ⟨x, behind, rfl⟩ := List.exists_cons_of_ne_nil more
  rw [escape]
  simp only [List.cons_append, List.nil_append]
  conv_lhs => unfold readText
  split
  -- Another escape may follow, or something else.
  case h_4 =>
    rename_i same
    cases same
    simp only [value, single, Bool.false_and, Bool.false_eq_true, if_false]
  case h_5 =>
    rename_i same
    cases same
    simp only [value]
  case h_6 =>
    rename_i short same
    cases same
    exact absurd rfl (short _ _ _ _ _ _)
  case h_7 =>
    rename_i letter same
    cases same
    exact absurd rfl letter
  case h_8 =>
    rename_i mark same
    cases same
    exact absurd rfl (mark _ _ rfl)
  all_goals
    rename_i same
    cases same

/-- The escapes of two surrogates are one character, unless the text ends there. -/
theorem readText_pair (first : isHighSurrogate high = true) (second : isLowSurrogate low = true)
    (more : rest ≠ []) :
    readText opening (unitEscape high ++ (unitEscape low ++ rest)) =
      consText (.char (pairChar high low)) (readText opening rest) := by
  have fits : high < 65536 := by
    simp only [isHighSurrogate, Bool.and_eq_true, decide_eq_true_eq] at first
    omega
  have fits' : low < 65536 := by
    simp only [isLowSurrogate, Bool.and_eq_true, decide_eq_true_eq] at second
    omega
  obtain ⟨a, b, c, d, escape, value⟩ := unitEscape_eq high fits
  obtain ⟨e, f, g, h, escape', value'⟩ := unitEscape_eq low fits'
  have some_ : rest.isEmpty = false := by simpa using more
  rw [escape, escape']
  simp only [List.cons_append, List.nil_append]
  rw [readText]
  simp only [value, value', first, second, some_, Bool.not_false, Bool.and_self, if_true]

theorem readText_letter {c x : Char} (digits : c ≠ 'u') (letter : escaped? c = some x) :
    readText opening ('\\' :: c :: rest) = consText (.char x) (readText opening rest) := by
  rw [readText]
  · rw [letter]
  all_goals
    intros
    exact digits ‹_›

theorem readText_plain {c : Char} (quote : c ≠ '"') (backslash : c ≠ '\\') (seen : 32 ≤ c.toNat) :
    readText opening (c :: rest) = consText (.char c) (readText opening rest) := by
  rw [readText]
  · rw [if_neg (by omega)]
  · exact quote
  all_goals
    intros
    exact backslash ‹_›

end Escapes

/-! ## Characters -/

/-- No character is a surrogate. -/
theorem toNat_scalar (c : Char) :
    c.toNat < 0xD800 ∨ 0xDFFF < c.toNat ∧ c.toNat < 0x110000 := c.valid

theorem unitPoint_eq {c : Char} (small : c.toNat < 65536) : unitPoint c.toNat = .char c := by
  have scalar := toNat_scalar c
  have outside : ¬ (0xD800 ≤ c.toNat ∧ c.toNat < 0xE000) := by omega
  rw [unitPoint, CodePoint.ofCode?, dif_neg outside, if_pos (by omega), Char.ofNat_toNat]
  rfl

theorem pairChar_eq {c : Char} (astral : 65536 ≤ c.toNat) :
    pairChar (0xD800 + (c.toNat - 0x10000) / 1024) (0xDC00 + (c.toNat - 0x10000) % 1024) = c := by
  rw [pairChar, show 0x10000 + (0xD800 + (c.toNat - 0x10000) / 1024 - 0xD800) * 1024 +
    (0xDC00 + (c.toNat - 0x10000) % 1024 - 0xDC00) = c.toNat by omega, Char.ofNat_toNat]

/-- What is written for a character is read as that character, unless the text ends there. -/
theorem readText_char (c : Char) {opening : Nat} {rest : List Char} (more : rest ≠ []) :
    readText opening (textChar c ++ rest) = consText (.char c) (readText opening rest) := by
  have scalar := toNat_scalar c
  unfold textChar
  split
  case h_8 quote backslash _ _ _ _ _ =>
    simp only
    split
    · rename_i printable
      simp only [Bool.and_eq_true, decide_eq_true_eq] at printable
      exact readText_plain quote backslash printable.1
    split
    · rename_i small
      have single : isHighSurrogate c.toNat = false := by
        simp only [isHighSurrogate, Bool.and_eq_false_iff, decide_eq_false_iff_not]
        omega
      rw [readText_unit small single more, unitPoint_eq small]
    · rename_i astral
      rw [List.append_assoc, readText_pair ?_ ?_ more, pairChar_eq (by omega)]
      · simp only [isHighSurrogate, Bool.and_eq_true, decide_eq_true_eq]
        omega
      · simp only [isLowSurrogate, Bool.and_eq_true, decide_eq_true_eq]
        omega
  all_goals exact readText_letter (by decide) rfl

example : textChar '😀' = ['\\', 'u', 'd', '8', '3', 'd', '\\', 'u', 'd', 'e', '0', '0'] := by decide

/-- A text between quotes is read as it is, and what follows it is left. -/
theorem readText_points (s : List Char) (opening : Nat) (rest : List Char) :
    readText opening ((Text.ofChars s).points.flatMap textPoint ++ '"' :: rest) =
      .ok ((Text.ofChars s).points, rest) := by
  induction s with
  | nil => rfl
  | cons c s ih =>
    show readText opening ((textChar c ++ (Text.ofChars s).points.flatMap textPoint) ++
      '"' :: rest) = _
    rw [List.append_assoc, readText_char c (by simp), ih]
    rfl

end TabAudit.Json
