import TabAudit.Proofs.Number.Decimal
import TabAudit.Text.Names

/-!
# Which names are drawn

What has a name between two colons of a text is drawn in its place, and a text with no such name is
left as it is. Drawing takes colons away.
-/

namespace TabAudit

/-! ## Names between colons -/

/-- The names between colons in a text, from left to right; the colon that ends one name starts no
other. -/
def colonNames (s : List Char) : List (List Char) :=
  match s with
  | [] => []
  | ':' :: rest =>
    match nameBefore? rest with
    | some name => name :: colonNames (rest.drop (name.length + 1))
    | none => colonNames rest
  | _ :: rest => colonNames rest
termination_by s.length

theorem colonNames_append {front : List Char} (free : ':' ∉ front) (s : List Char) :
    colonNames (front ++ s) = colonNames s := by
  induction front with
  | nil => rfl
  | cons c front ih =>
    obtain ⟨other, others⟩ := List.ne_and_not_mem_of_not_mem_cons free
    rw [List.cons_append, colonNames, ih others]
    exact other.symm

theorem colonNames_of_notMem {s : List Char} (free : ':' ∉ s) : colonNames s = [] := by
  rw [← List.append_nil s, colonNames_append free, colonNames]

theorem colonNames_name {name s : List Char} (h : ∀ c ∈ name, c ≠ ':' ∧ isBlank c = false) :
    colonNames (':' :: name ++ ':' :: s) = name :: colonNames s := by
  have inside : (name ++ ':' :: s).takeWhile (fun c => c ≠ ':' && !isBlank c) = name := by
    rw [List.takeWhile_append_of_pos (by simpa using h), List.takeWhile_cons_of_neg (by simp),
      List.append_nil]
  have found : nameBefore? (name ++ ':' :: s) = some name := by
    simp only [nameBefore?, inside, List.drop_left, List.head?_cons, if_true]
  rw [List.cons_append, colonNames, found]
  simp

theorem nameBefore?_eq_some {s name : List Char} (h : nameBefore? s = some name) :
    ':' ∉ name ∧ ∃ rest, s = name ++ ':' :: rest := by
  unfold nameBefore? at h
  dsimp only at h
  split at h
  · rename_i closed
    have name_ : s.takeWhile (fun c => c ≠ ':' && !isBlank c) = name := Option.some.inj h
    rw [name_] at closed
    obtain ⟨rest, behind⟩ := List.head?_eq_some_iff.mp closed
    refine ⟨fun member => ?_, rest, ?_⟩
    · have test := List.mem_takeWhile_imp (name_ ▸ member)
      simp at test
    · have split_ : s.takeWhile (fun c => c ≠ ':' && !isBlank c) ++
          s.dropWhile (fun c => c ≠ ':' && !isBlank c) = s := List.takeWhile_append_dropWhile
      rw [name_] at split_
      have dropped : s.drop name.length = s.dropWhile fun c => c ≠ ':' && !isBlank c := by
        conv_lhs => rw [← split_]
        exact List.drop_left
      rw [← dropped, behind] at split_
      exact split_.symm
  · cases h

/-- Every name stands between two colons. -/
theorem infix_of_mem_colonNames {s name : List Char} (h : name ∈ colonNames s) :
    ':' :: name ++ [':'] <:+: s := by
  fun_induction colonNames s with
  | case1 => simp at h
  | case2 rest first found ih =>
    obtain ⟨-, behind, rfl⟩ := nameBefore?_eq_some found
    have tail : (first ++ ':' :: behind).drop (first.length + 1) = behind := by simp
    rw [tail] at h ih
    rcases List.mem_cons.mp h with rfl | later
    · exact ⟨[], behind, by simp⟩
    · exact (ih later).trans ⟨':' :: first ++ [':'], [], by simp⟩
  | case3 rest none ih => exact (ih h).trans (List.infix_cons (List.infix_refl rest))
  | case4 c rest other ih => exact (ih h).trans (List.infix_cons (List.infix_refl rest))

/-! ## Drawing -/

section Drawing

variable {drawing? : List Char → Option (List Char)}

theorem drawNames_append {front : List Char} (free : ':' ∉ front) (s : List Char) :
    drawNames drawing? (front ++ s) = front ++ drawNames drawing? s := by
  induction front with
  | nil => rfl
  | cons c front ih =>
    obtain ⟨other, others⟩ := List.ne_and_not_mem_of_not_mem_cons free
    rw [List.cons_append, drawNames, ih others, List.cons_append]
    exact other.symm

variable (colonless : ∀ name drawn, drawing? name = some drawn → ':' ∉ drawn)

include colonless

/-- Drawing takes colons away, unless there is nothing to draw. -/
theorem drawNames_cases (s : List Char) :
    ((∀ name ∈ colonNames s, drawing? name = none) ∧ drawNames drawing? s = s) ∨
      ((∃ name ∈ colonNames s, drawing? name ≠ none) ∧
        (drawNames drawing? s).count ':' < s.count ':') := by
  fun_induction colonNames s with
  | case1 => simp [drawNames]
  | case2 rest name found ih =>
    -- The colon that ends a name starts no other: the rest begins behind it.
    obtain ⟨free, behind, rfl⟩ := nameBefore?_eq_some found
    have tail : (name ++ ':' :: behind).drop (name.length + 1) = behind := by simp
    rw [tail] at ih ⊢
    have colons : (name ++ ':' :: behind).count ':' = behind.count ':' + 1 := by
      simp [List.count_eq_zero_of_not_mem free]
    have step : drawNames drawing? (':' :: (name ++ ':' :: behind)) =
        (drawing? name).getD (':' :: name ++ [':']) ++ drawNames drawing? behind := by
      rw [drawNames, found]
      simp only [tail]
    rw [step, List.count_cons_self, colons]
    cases drawn : drawing? name with
    | none =>
      rcases ih with ⟨others, kept⟩ | ⟨found, fewer⟩
      · exact .inl ⟨List.forall_mem_cons.mpr ⟨drawn, others⟩, by simp [kept]⟩
      · refine .inr ⟨found.imp fun name => And.imp_left (List.mem_cons_of_mem _), ?_⟩
        simp only [Option.getD_none, List.count_append, List.count_cons_self,
          List.count_eq_zero_of_not_mem free, List.count_nil]
        omega
    | some shown =>
      refine .inr ⟨⟨name, List.mem_cons_self, by simp [drawn]⟩, ?_⟩
      have le : (drawNames drawing? behind).count ':' ≤ behind.count ':' := by
        rcases ih with ⟨-, kept⟩ | ⟨-, fewer⟩
        · rw [kept]
        · exact fewer.le
      rw [Option.getD_some, List.count_append,
        List.count_eq_zero_of_not_mem (colonless name shown drawn)]
      omega
  | case3 rest none ih =>
    rw [drawNames, none]
    simpa using ih
  | case4 c rest other ih =>
    have other : c ≠ ':' := fun same => other same
    rw [drawNames.eq_3 _ _ _ (fun same => other same)]
    simpa [other] using ih

/-- A text is left as it is just if none of its names has a drawing. -/
theorem drawNames_eq_self_iff {s : List Char} :
    drawNames drawing? s = s ↔ ∀ name ∈ colonNames s, drawing? name = none := by
  rcases drawNames_cases colonless s with ⟨none, same⟩ | ⟨⟨name, member, found⟩, fewer⟩
  · exact iff_of_true same none
  · exact iff_of_false (fun same => fewer.ne (by rw [same])) fun none => found (none name member)

end Drawing

/-! ## Digits -/

theorem isBlank_natDigits {n : Nat} {c : Char} (h : c ∈ natDigits n) : isBlank c = false := by
  have digit := isDigit_of_mem_natDigits h
  have small : c.toNat < 58 := by
    simp only [Char.isDigit, Bool.and_eq_true, decide_eq_true_eq] at digit
    exact Nat.lt_of_le_of_lt digit.2 (by decide)
  have all : ∀ n < 58, (Char.ofNat n).isDigit = true → isBlank (Char.ofNat n) = false := by decide
  have this := all c.toNat small
  rw [Char.ofNat_toNat] at this
  exact this digit

end TabAudit
