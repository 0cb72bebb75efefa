import TabAudit.Path.Basic
import TabAudit.Text.Pieces

/-!
# Joined pieces are cut apart again

A row of pieces without the separator is found again by cutting the joined text, so two rows of
names that are joined to one path are the same row.
-/

namespace TabAudit

variable {α : Type} [DecidableEq α]

theorem splitAtEach_append {sep : α} {piece : List α} (h : sep ∉ piece) (rest : List α) :
    splitAtEach sep (piece ++ sep :: rest) = piece :: splitAtEach sep rest := by
  induction piece with
  | nil => simp [splitAtEach]
  | cons c piece ih =>
    obtain ⟨hc, hp⟩ := not_or.mp (mt List.mem_cons.mpr h)
    rw [List.cons_append, splitAtEach, if_neg (Ne.symm hc), ih hp]

theorem splitAtEach_of_notMem {sep : α} {piece : List α} (h : sep ∉ piece) :
    splitAtEach sep piece = [piece] := by
  induction piece with
  | nil => rfl
  | cons c piece ih =>
    obtain ⟨hc, hp⟩ := not_or.mp (mt List.mem_cons.mpr h)
    rw [splitAtEach, if_neg (Ne.symm hc), ih hp]

/-- A text without the separator in front makes the first piece longer. -/
theorem splitAtEach_free_append {sep : α} (front : List α) {s piece : List α}
    {pieces : List (List α)} (h : sep ∉ front) (cut : splitAtEach sep s = piece :: pieces) :
    splitAtEach sep (front ++ s) = (front ++ piece) :: pieces := by
  induction front with
  | nil => exact cut
  | cons c front ih =>
    obtain ⟨hc, hf⟩ := not_or.mp (mt List.mem_cons.mpr h)
    rw [List.cons_append, splitAtEach, if_neg (Ne.symm hc), ih hf]
    rfl

/-- There is a first piece, and the text begins with it. -/
theorem exists_splitAtEach_eq_cons (sep : α) (s : List α) :
    ∃ piece pieces, splitAtEach sep s = piece :: pieces ∧ piece <+: s := by
  induction s with
  | nil => exact ⟨[], [], rfl, List.nil_prefix⟩
  | cons c s ih =>
    by_cases hc : c = sep
    · exact ⟨[], splitAtEach sep s, by rw [splitAtEach, if_pos hc], List.nil_prefix⟩
    · obtain ⟨piece, pieces, cut, front⟩ := ih
      refine ⟨c :: piece, pieces, ?_, List.prefix_cons_inj c |>.mpr front⟩
      exact splitAtEach_free_append [c] (by simpa using Ne.symm hc) cut

/-- A piece holds nothing but what is in the text, and no separator. -/
theorem mem_splitAtEach {sep : α} {s piece : List α} (h : piece ∈ splitAtEach sep s) :
    sep ∉ piece ∧ piece ⊆ s := by
  induction s generalizing piece with
  | nil => simp_all [splitAtEach]
  | cons c s ih =>
    by_cases hc : c = sep
    · rw [splitAtEach, if_pos hc] at h
      rcases List.mem_cons.mp h with rfl | later
      · simp
      · exact ⟨(ih later).1, List.subset_cons_of_subset c (ih later).2⟩
    · obtain ⟨first, pieces, cut, -⟩ := exists_splitAtEach_eq_cons sep s
      have whole : splitAtEach sep (c :: s) = (c :: first) :: pieces :=
        splitAtEach_free_append [c] (by simpa using Ne.symm hc) cut
      rw [whole] at h
      rcases List.mem_cons.mp h with rfl | later
      · have inner : sep ∉ first ∧ first ⊆ s := ih (by simp [cut])
        exact ⟨by simp [inner.1, Ne.symm hc], List.cons_subset_cons c inner.2⟩
      · have inner : sep ∉ piece ∧ piece ⊆ s := ih (by simp [cut, later])
        exact ⟨inner.1, List.subset_cons_of_subset c inner.2⟩

/-- Cutting undoes joining. -/
theorem splitAtEach_joinWith {sep : α} {pieces : List (List α)} (some_ : pieces ≠ [])
    (h : ∀ piece ∈ pieces, sep ∉ piece) : splitAtEach sep (joinWith sep pieces) = pieces := by
  induction pieces with
  | nil => exact absurd rfl some_
  | cons piece pieces ih =>
    cases pieces with
    | nil => exact splitAtEach_of_notMem (h piece (by simp))
    | cons next more =>
      rw [joinWith, splitAtEach_append (h piece (by simp)),
        ih (by simp) fun p hp => h p (by simp [hp])]
      simp

/-- Rows of names without the separator that are written alike are alike. -/
theorem Path.joinNames_inj {sep : Char} {a b : List String} (ha : a ≠ []) (hb : b ≠ [])
    (a_free : ∀ name ∈ a, sep ∉ name.toList) (b_free : ∀ name ∈ b, sep ∉ name.toList)
    (h : Path.joinNames sep a = Path.joinNames sep b) : a = b := by
  have texts : joinWith sep (a.map String.toList) = joinWith sep (b.map String.toList) :=
    String.ofList_injective h
  have cut (names : List String) (some_ : names ≠ []) (free : ∀ name ∈ names, sep ∉ name.toList) :
      splitAtEach sep (joinWith sep (names.map String.toList)) = names.map String.toList :=
    splitAtEach_joinWith (by simpa using some_) (by simpa using free)
  have pieces : a.map String.toList = b.map String.toList := by
    rw [← cut a ha a_free, texts, cut b hb b_free]
  exact (List.map_inj_right fun _ _ => String.toList_injective).mp pieces

end TabAudit
