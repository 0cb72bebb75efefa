import TabAudit.Console.Emoji
import TabAudit.Proofs.Number.Decimal
import TabAudit.Proofs.Text.Case

/-!
# Names of emoji

No emoji has a colon in it, and two numbers are names.
-/

namespace TabAudit.Console

theorem splitVariant_mark {name stem mark : List Char} (h : splitVariant name = (stem, mark)) :
    ':' ∉ mark := by
  have all : ∀ e ∈ emojiVariants, e.2 ≠ ':' := by decide
  unfold splitVariant at h
  split at h
  · rename_i ending c found
    cases h
    simpa using (all _ (List.mem_of_find?_eq_some found)).symm
  · cases h
    simp

/-- No emoji is drawn with a colon. -/
theorem notMem_of_emoji? (name drawn : List Char) (h : emoji? name = some drawn) : ':' ∉ drawn := by
  have all : ∀ e ∈ emojiNames, e.2 ≠ ':' := by decide +kernel
  unfold emoji? at h
  rcases variant : splitVariant name with ⟨stem, mark⟩
  rw [variant] at h
  obtain ⟨c, found, rfl⟩ := Option.map_eq_some_iff.mp h
  obtain ⟨front, back, whole, -⟩ := List.lookup_eq_some_iff.mp found
  have other : c ≠ ':' := all (_, c) (whole ▸ List.mem_append_right front List.mem_cons_self)
  exact List.not_mem_cons_of_ne_of_not_mem other.symm (splitVariant_mark variant)

theorem splitVariant_natDigits (n : Nat) : splitVariant (natDigits n) = (natDigits n, []) := by
  have dash : ∀ e ∈ emojiVariants, '-' ∈ e.1 := by decide
  unfold splitVariant
  split
  · rename_i ending mark found
    have ends := List.find?_some found
    have member := List.mem_of_find?_eq_some found
    have suffix := (List.isSuffixOf_iff_suffix.mp ends).subset
    exact absurd (suffix (dash _ member)) (notMem_natDigits rfl n)
  · rfl

/-- The only numbers whose digits are the name of an emoji. -/
theorem emoji?_natDigits_iff {n : Nat} : emoji? (natDigits n) = none ↔ n ≠ 100 ∧ n ≠ 1234 := by
  have hundred : String.ofList (natDigits 100) = "100" := by cbv
  have thousands : String.ofList (natDigits 1234) = "1234" := by cbv
  have numbers : ∀ e ∈ emojiNames, e.1.toList.all Char.isDigit = true → e.1 ∈ ["100", "1234"] := by
    decide +kernel
  have lower := lowerCase_digits fun c member => isDigit_of_mem_natDigits (n := n) member
  simp only [emoji?, splitVariant_natDigits, lower, Option.map_eq_none_iff]
  constructor
  · intro none
    constructor
    · rintro rfl
      rw [hundred] at none
      exact absurd none (by decide)
    · rintro rfl
      rw [thousands] at none
      exact absurd none (by decide)
  · rintro ⟨not_hundred, not_thousands⟩
    refine List.lookup_eq_none_iff.mpr fun e member => ?_
    rw [bne_iff_ne]
    intro same
    have number := numbers e member (by
      rw [← same, String.toList_ofList, List.all_eq_true]
      exact fun c => isDigit_of_mem_natDigits)
    rw [← same, List.mem_pair, ← hundred, ← thousands] at number
    rcases number with same | same
    · exact not_hundred (natDigits_injective (String.ofList_injective same))
    · exact not_thousands (natDigits_injective (String.ofList_injective same))

end TabAudit.Console
