import Mathlib
import TabAudit.Text.Case

/-!
# What a change of case leaves alone

A text in lower case has its backslashes where they were, and no further ones; one that is put
behind a text has no part in the case of the rest. Digits have no case.
-/

namespace TabAudit

/-! ## One character -/

/-- A block of letters becomes characters behind the backslash. -/
theorem lt_lowerBlock {first last step : Nat} {distance : Int}
    (h : (first, last, step, distance) ∈ lowerBlocks) : 92 < first + distance := by
  have all : ∀ block ∈ lowerBlocks, 92 < (block.1 : Int) + block.2.2.2 := by decide +kernel
  exact all _ h

theorem shiftCase_ne_backslash {c : Char} (h : 128 ≤ c.toNat) :
    shiftCase lowerBlocks c ≠ '\\' := by
  have code : '\\'.toNat = 92 := rfl
  intro same
  have value := congrArg Char.toNat same
  rw [code, shiftCase] at value
  split at value
  · rename_i first last step distance found
    have behind := lt_lowerBlock (List.mem_of_find?_eq_some found)
    have within := List.find?_some found
    simp only [Bool.and_eq_true, decide_eq_true_eq] at within
    rw [Char.toNat_ofNat] at value
    split at value <;> omega
  · omega

theorem toLower_eq_backslash_iff {c : Char} (h : c.toNat < 128) :
    c.toLower = '\\' ↔ c = '\\' := by
  have all : ∀ n < 128, (Char.ofNat n).toLower = '\\' ↔ Char.ofNat n = '\\' := by decide
  simpa only [Char.ofNat_toNat] using all c.toNat h

/-! ## Texts -/

/-- The small letters of a character that stands between others. -/
def lowerChar (before : List Char) (c : Char) (rest : List Char) : List Char :=
  if c = 'Σ' then [if facesCase before && !facesCase rest then 'ς' else 'σ']
  else if c = 'İ' then ['i', Char.ofNat 0x307]
  else if c.toNat < 128 then [c.toLower]
  else [shiftCase lowerBlocks c]

theorem lowerFrom_cons (before : List Char) (c : Char) (rest : List Char) :
    lowerFrom before (c :: rest) = lowerChar before c rest ++ lowerFrom (c :: before) rest := rfl

theorem count_lowerChar (before : List Char) (c : Char) (rest : List Char) :
    (lowerChar before c rest).count '\\' = [c].count '\\' := by
  unfold lowerChar
  split
  · rename_i sigma
    subst sigma
    split <;> decide
  split
  · rename_i dotted
    subst dotted
    decide
  split
  · rename_i ascii
    by_cases h : c = '\\'
    · subst h
      decide
    · simp [h, toLower_eq_backslash_iff ascii]
  · rename_i sigma dotted ascii
    have other : c ≠ '\\' := by
      rintro rfl
      exact ascii (by decide)
    simp [other, shiftCase_ne_backslash (Nat.le_of_not_lt ascii)]

theorem count_lowerFrom (before s : List Char) :
    (lowerFrom before s).count '\\' = s.count '\\' := by
  induction s generalizing before with
  | nil => rfl
  | cons c rest ih =>
    rw [lowerFrom_cons, List.count_append, count_lowerChar, ih, ← List.count_append]
    rfl

/-- A backslash has no case and is not passed over. -/
theorem facesCase_snoc (s : List Char) : facesCase (s ++ ['\\']) = facesCase s := by
  have seen : caseIgnorableSet.holds '\\' = false := by decide +kernel
  have caseless : casedSet.holds '\\' = false := by decide +kernel
  unfold facesCase
  induction s with
  | nil => simp [seen, caseless]
  | cons c rest ih =>
    by_cases passed : caseIgnorableSet.holds c = true
    · rw [List.cons_append, List.dropWhile_cons_of_pos passed,
        List.dropWhile_cons_of_pos passed, ih]
    · rw [List.cons_append, List.dropWhile_cons_of_neg passed, List.dropWhile_cons_of_neg passed]

theorem lowerFrom_snoc (before s : List Char) :
    lowerFrom before (s ++ ['\\']) = lowerFrom before s ++ ['\\'] := by
  induction s generalizing before with
  | nil => rfl
  | cons c rest ih =>
    rw [List.cons_append, lowerFrom_cons, lowerFrom_cons, ih, List.append_assoc]
    simp only [lowerChar, facesCase_snoc]

theorem count_lowerCase (s : String) : (lowerCase s).toList.count '\\' = s.toList.count '\\' := by
  rw [lowerCase, String.toList_ofList, count_lowerFrom]

theorem lowerCase_snoc (s : String) : lowerCase (s ++ "\\") = lowerCase s ++ "\\" := by
  apply String.toList_injective
  simp only [lowerCase, String.toList_append, String.toList_ofList]
  exact lowerFrom_snoc [] s.toList

/-- Digits have no case. -/
theorem lowerFrom_digits (before : List Char) {s : List Char}
    (digits : ∀ c ∈ s, c.isDigit = true) : lowerFrom before s = s := by
  induction s generalizing before with
  | nil => rfl
  | cons c rest ih =>
    obtain ⟨digit, digits⟩ := List.forall_mem_cons.mp digits
    have small : c.toNat < 128 := by
      simp only [Char.isDigit, Bool.and_eq_true, decide_eq_true_eq] at digit
      exact Nat.lt_of_le_of_lt digit.2 (by decide)
    have all : ∀ n < 128, (Char.ofNat n).isDigit = true →
        lowerChar [] (Char.ofNat n) [] = [Char.ofNat n] := by decide
    have alone := all c.toNat small (by rwa [Char.ofNat_toNat])
    rw [Char.ofNat_toNat] at alone
    have other : c ≠ 'Σ' := by
      rintro rfl
      exact absurd digit (by decide)
    rw [lowerFrom_cons, ih _ digits]
    simp only [lowerChar, if_neg other] at alone ⊢
    rw [alone, List.singleton_append]

theorem lowerCase_digits {s : List Char} (digits : ∀ c ∈ s, c.isDigit = true) :
    lowerCase (String.ofList s) = String.ofList s := by
  rw [lowerCase, String.toList_ofList, lowerFrom_digits [] digits]

end TabAudit
