import TabAudit.Proofs.Glob.Acceptance

/-!
# Globs put together

Two globs in a row are cut as each is cut alone, unless a token crosses the seam (`Seam`): a
backslash that protects the next character, two stars, or one run of separators. A separator
between two rows of tokens keeps their faults apart.
-/

namespace TabAudit.Glob

/-! ## Cutting at a seam -/

/-- No token crosses from characters into the text behind them. -/
structure Seam (ms : List Mark) (behind : List Char) : Prop where
  whole : ¬ Dangles ms
  stars : ms.getLast? = some (bare '*') → behind.head? ≠ some '*'
  separators : ms.getLast? = some (bare '/') → behind.head? ≠ some '/'

variable {m : Mark} {ms : List Mark} {pre post behind : List Char} {us vs : List Token}

theorem Seam.tail (h : Seam (m :: ms) behind) : Seam ms behind := by
  cases ms with
  | nil => exact ⟨by simp [Dangles], by simp, by simp⟩
  | cons x ms =>
    rcases h with ⟨whole, stars, separators⟩
    rw [Dangles, List.getLast?_cons_cons] at whole
    rw [List.getLast?_cons_cons] at stars separators
    exact ⟨whole, stars, separators⟩

theorem Seam.drop (front : List Mark) (h : Seam (front ++ ms) behind) : Seam ms behind := by
  induction front with
  | nil => exact h
  | cons m front ih => exact ih h.tail

/-- What begins a text that is put together. -/
theorem head?_append_ne {c : Char} {a b : List Char} (first : a.head? ≠ some c)
    (second : a = [] → b.head? ≠ some c) : (a ++ b).head? ≠ some c := by
  cases a with
  | nil => exact second rfl
  | cons d a => exact first

/-- The tokens of both parts are the tokens of the whole. -/
theorem Cut.append (cut : Cut pre us) (seam : Seam (marks false pre) behind)
    (rest : Cut behind vs) : Cut (pre ++ behind) (us ++ vs) := by
  induction cut with
  | done => exact rest
  | loneEscape => exact absurd rfl seam.whole
  | escaped c _ ih =>
    rw [marks_escape] at seam
    exact .escaped c (ih seam.tail.tail)
  | anyPath _ ih =>
    rw [marks_of_ne (by decide), marks_of_ne (by decide)] at seam
    exact .anyPath (ih seam.tail.tail)
  | anyRun single _ ih =>
    rw [marks_of_ne (by decide)] at seam
    refine .anyRun (head?_append_ne single fun last => ?_) (ih seam.tail)
    exact seam.stars (by rw [last]; rfl)
  | anyChar _ ih =>
    rw [marks_of_ne (by decide)] at seam
    exact .anyChar (ih seam.tail)
  | @separator more tail _ last _ ih =>
    rw [marks_separators] at seam
    rw [List.cons_append, List.append_assoc]
    refine .separator more (head?_append_ne last fun none => ?_) (ih (seam.drop _))
    refine seam.separators ?_
    rw [none, marks, List.append_nil, List.replicate_succ', List.getLast?_concat]
  | ordinary c plain _ ih =>
    rw [marks_of_ne (notMem_special.mp plain).1] at seam
    exact .ordinary c plain (ih seam.tail)

/-- The tokens of globs put together. -/
theorem tokens_append (seam : Seam (marks false pre) behind) :
    tokens (pre ++ behind) = tokens pre ++ tokens behind :=
  ((cut_tokens pre).append seam (cut_tokens behind)).eq_tokens.symm

/-- Three stars in a row are out of place wherever they stand. -/
theorem stray_of_three_within (clear : Bool) (xs ys : List Mark) :
    Stray clear (xs ++ bare '*' :: bare '*' :: bare '*' :: ys) := by
  induction h : xs.length using Nat.strong_induction_on generalizing xs clear with
  | _ n ih =>
    subst h
    -- what stands before goes one character, or one run of stars, at a time
    rcases xs with _ | ⟨m, xs⟩
    · exact stray_of_three
    by_cases star : m = bare '*'
    · subst star
      rcases xs with _ | ⟨m, xs⟩
      · exact stray_of_three
      by_cases again : m = bare '*'
      · subst again
        rcases xs with _ | ⟨m, xs⟩
        · exact stray_of_three
        by_cases third : m = bare '*'
        · subst third
          exact stray_of_three
        · refine (stray_pair (by simpa using third)).mpr (.inr ?_)
          exact ih _ (by simp only [List.length_cons]; omega) false (m :: xs) rfl
      · refine (stray_star (by simpa using again)).mpr ?_
        exact ih _ (by simp) false (m :: xs) rfl
    · exact (stray_cons star).mpr (ih _ (by simp) _ xs rfl)

theorem map_char_marks (shielded : Bool) (glob : List Char) :
    (marks shielded glob).map Mark.char = glob := by
  induction glob generalizing shielded with
  | nil => rfl
  | cons c rest ih => exact congrArg (c :: ·) (ih _)

theorem marks_append (shielded : Bool) (whole : ¬ Dangles (marks shielded pre))
    (open_ : shielded = true → pre ≠ []) (behind : List Char) :
    marks shielded (pre ++ behind) = marks shielded pre ++ marks false behind := by
  induction pre generalizing shielded with
  | nil =>
    cases shielded with
    | false => rfl
    | true => exact absurd rfl (open_ rfl)
  | cons c pre ih =>
    rw [marks] at whole
    rw [List.cons_append, marks, marks, List.cons_append]
    refine congrArg _ (ih _ ?_ ?_)
    · intro dangles
      refine whole ?_
      rw [Dangles] at dangles ⊢
      cases h : marks (!shielded && c == '\\') pre with
      | nil => rw [h] at dangles; simp at dangles
      | cons x xs => rw [List.getLast?_cons_cons, ← h, dangles]
    · rintro shields rfl
      refine whole ?_
      obtain ⟨rfl, rfl⟩ : shielded = false ∧ c = '\\' := by simpa using shields
      rfl

/-- In a sound glob no star stands directly before a `**`. -/
theorem seam_of_sound (whole : ¬ Dangles (marks false pre))
    (sound : firstFault true (tokens (pre ++ '*' :: '*' :: behind)) = none) (post : List Char) :
    Seam (marks false pre) ('*' :: '*' :: post) := by
  refine ⟨whole, fun last => absurd ?_ (firstFault_tokens_eq_none.mp sound).1, by simp⟩
  obtain ⟨front, stars⟩ := List.getLast?_eq_some_iff.mp last
  rw [marks_append false whole (by simp), stars, marks_of_ne (by decide), marks_of_ne (by decide),
    List.append_assoc]
  exact stray_of_three_within true front _

/-! ## Faults apart -/

/-- Tokens on both sides of a separator have the faults that they have alone. -/
theorem firstFault_append_separator (clear : Bool) (us vs : List Token) :
    firstFault clear (us ++ .separator :: vs) = (firstFault clear us).or (firstFault true vs) := by
  fun_induction firstFault clear us with
  | case1 clear => rfl
  | case2 => rfl
  | case3 rest ih => exact ih
  | case4 rest none other =>
    rcases rest with _ | ⟨t, rest⟩
    · exact absurd rfl none
    · cases t <;> first | exact absurd rfl (other _) | rfl
  | case5 clear rest unclear =>
    obtain rfl : clear = false := by simpa using unclear
    exact firstFault_misplaced _
  | case6 clear rest ih => exact ih
  | case7 => rfl
  | case8 clear t rest _ _ _ ih =>
    cases t <;> first | exact ih | contradiction

/-- The separators in front are no matter. -/
theorem firstFault_dropLeading_eq (ts : List Token) :
    firstFault true (dropLeading ts) = firstFault true ts := by
  unfold dropLeading
  split <;> rfl

end TabAudit.Glob
