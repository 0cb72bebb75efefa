import Mathlib
import TabAudit.Number.Decimal
import TabAudit.Text.Hex

/-!
# Digits and what they stand for

The digits of a number stand for it. In base ten there is no zero in front but that of zero itself,
and there are no more digits than powers of ten below the number.
-/

namespace TabAudit

/-! ## Base ten -/

theorem digitsBefore_eq_append (n : Nat) (done : List Char) :
    digitsBefore n done = natDigits n ++ done := by
  unfold natDigits
  induction n using Nat.strong_induction_on generalizing done with
  | _ n ih =>
    rw [digitsBefore, digitsBefore.eq_def n []]
    split
    · rfl
    · rw [ih (n / 10) (by omega), ih (n / 10) (by omega) [_], List.append_assoc]
      rfl

theorem natDigits_of_lt {n : Nat} (h : n < 10) : natDigits n = [decimalDigit n] := by
  rw [natDigits, digitsBefore, if_pos h]

theorem natDigits_of_ge {n : Nat} (h : 10 ≤ n) :
    natDigits n = natDigits (n / 10) ++ [decimalDigit (n % 10)] := by
  rw [natDigits, digitsBefore, if_neg (by omega), digitsBefore_eq_append]

theorem toNat_decimalDigit {n : Nat} (h : n < 10) : (decimalDigit n).toNat = 48 + n := by
  have all : ∀ n < 10, (decimalDigit n).toNat = 48 + n := by decide
  exact all n h

theorem isDigit_decimalDigit {n : Nat} (h : n < 10) : (decimalDigit n).isDigit = true := by
  have all : ∀ n < 10, (decimalDigit n).isDigit = true := by decide
  exact all n h

theorem natDigits_ne_nil (n : Nat) : natDigits n ≠ [] := by
  by_cases h : n < 10
  · simp [natDigits_of_lt h]
  · simp [natDigits_of_ge (by omega : 10 ≤ n)]

theorem isDigit_of_mem_natDigits {n : Nat} {c : Char} (h : c ∈ natDigits n) :
    c.isDigit = true := by
  induction n using Nat.strong_induction_on with
  | _ n ih =>
    by_cases small : n < 10
    · rw [natDigits_of_lt small, List.mem_singleton] at h
      exact h ▸ isDigit_decimalDigit small
    · rw [natDigits_of_ge (by omega), List.mem_append, List.mem_singleton] at h
      rcases h with h | rfl
      · exact ih (n / 10) (by omega) h
      · exact isDigit_decimalDigit (Nat.mod_lt n (by decide))

theorem notMem_natDigits {c : Char} (other : c.isDigit = false) (n : Nat) : c ∉ natDigits n :=
  fun member => by simp [isDigit_of_mem_natDigits member] at other

theorem ofDecimalDigits_snoc (s : List Char) (c : Char) :
    ofDecimalDigits (s ++ [c]) = ofDecimalDigits s * 10 + (c.toNat - 48) := by
  simp [ofDecimalDigits, ofDigits, digitsAfter]

theorem ofDecimalDigits_natDigits (n : Nat) : ofDecimalDigits (natDigits n) = n := by
  induction n using Nat.strong_induction_on with
  | _ n ih =>
    by_cases small : n < 10
    · rw [natDigits_of_lt small]
      have none : ofDecimalDigits [] = 0 := rfl
      rw [← List.nil_append [_], ofDecimalDigits_snoc, none, toNat_decimalDigit small]
      omega
    · rw [natDigits_of_ge (by omega), ofDecimalDigits_snoc, ih (n / 10) (by omega),
        toNat_decimalDigit (Nat.mod_lt n (by decide))]
      omega

theorem natDigits_injective {m n : Nat} (h : natDigits m = natDigits n) : m = n := by
  rw [← ofDecimalDigits_natDigits m, h, ofDecimalDigits_natDigits]

/-- The first digit of a number is no zero. -/
theorem natDigits_head {n : Nat} (pos : 0 < n) : (natDigits n).head? ≠ some '0' := by
  induction n using Nat.strong_induction_on with
  | _ n ih =>
    by_cases small : n < 10
    · rw [natDigits_of_lt small]
      intro same
      have digit := toNat_decimalDigit small
      rw [Option.some.inj same] at digit
      have zero : '0'.toNat = 48 := rfl
      omega
    · rw [natDigits_of_ge (by omega), List.head?_append_of_ne_nil _ (natDigits_ne_nil _)]
      exact ih (n / 10) (by omega) (by omega)

theorem length_natDigits_le {n k : Nat} (pos : 0 < k) (h : n < Nat.pow 10 k) :
    (natDigits n).length ≤ k := by
  induction k generalizing n with
  | zero => omega
  | succ k ih =>
    by_cases small : n < 10
    · rw [natDigits_of_lt small]
      simp
    · rw [natDigits_of_ge (by omega), List.length_append, List.length_singleton]
      have power : Nat.pow 10 (k + 1) = Nat.pow 10 k * 10 := rfl
      have fewer : n / 10 < Nat.pow 10 k := by omega
      have some_ : 0 < k := by
        rcases Nat.eq_zero_or_pos k with rfl | pos
        · have one : Nat.pow 10 0 = 1 := rfl
          omega
        · exact pos
      have := ih some_ fewer
      omega

/-! ## Base sixteen -/

theorem hexValue?_digitChar {n : Nat} (h : n < 16) : hexValue? (Nat.digitChar n) = some n := by
  have all : ∀ n < 16, hexValue? (Nat.digitChar n) = some n := by decide
  exact all n h

end TabAudit
