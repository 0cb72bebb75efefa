import TabAudit.Proofs.Glob.Translation

/-!
# A token and what stands before it

The language of a token depends on what stands before it. This module takes the languages of a row
of tokens apart at any place, says what a `**` before a place does to what follows (`Absorbs`), and
compares the same tokens behind different ones (`Within`).
-/

namespace TabAudit.Glob

variable {l l' k : Language Char} {ls ls' : List (Language Char)} {s : List Char}
variable {before : Before}

/-! ## Languages in a row -/

/-- Whether a separator was seen, and what stands directly before, once tokens are passed. -/
def past (seen : Bool) (before : Before) : List Token → Bool × Before
  | [] => (seen, before)
  | t :: ts => past (seen || t.divides before) (t.after before) ts

theorem past_append (seen : Bool) (before : Before) (us vs : List Token) :
    past seen before (us ++ vs) = past (past seen before us).1 (past seen before us).2 vs := by
  induction us generalizing seen before with
  | nil => rfl
  | cons t us ih => exact ih _ _

theorem languages_append (seen : Bool) (before : Before) (us vs : List Token) :
    languages seen before (us ++ vs) = languages seen before us ++
      languages (past seen before us).1 (past seen before us).2 vs := by
  induction us generalizing seen before with
  | nil => rfl
  | cons t us ih => exact congrArg (t.language seen before :: ·) (ih _ _)

/-- Only a `**` leaves a `**` directly before. -/
theorem past_eq_path {us : List Token} (h : (past false .other us).2 = .path) :
    ∃ front, us = front ++ [.anyPath] := by
  rcases List.eq_nil_or_concat us with rfl | ⟨front, t, rfl⟩
  · cases h
  · rw [List.concat_eq_append, past_append] at h
    cases t with
    | anyPath => exact ⟨front, List.concat_eq_append⟩
    | separator =>
      rw [past, past, Token.after] at h
      split at h <;> cases h
    | _ => cases h

theorem language_anyPath_eq (seen : Bool) (before : Before) :
    Token.anyPath.language seen before = reach (before = .pathSlash) := by
  simp [Token.language, reach]

theorem languages_anyPath (seen : Bool) (before : Before) (ts : List Token) :
    languages seen before (.anyPath :: ts) =
      reach (before = .pathSlash) :: languages seen .path ts := by
  rw [languages, language_anyPath_eq]
  simp [Token.divides, Token.after]

theorem languages_link (seen : Bool) (ts : List Token) :
    languages seen .path (.separator :: ts) = link seen :: languages seen .pathSlash ts := by
  simp [languages, Token.language, Token.divides, Token.after, link]

theorem languages_slash (h : before ≠ .path) (seen : Bool) (ts : List Token) :
    languages seen before (.separator :: ts) = slash :: languages true .other ts := by
  simp [languages, Token.language, Token.divides, Token.after, slash, h]

/-- Nothing is dropped before a language that is no separator. -/
theorem trimmed_append_of_ne (h : l ≠ slash) (front ls : List (Language Char)) :
    trimmed (front ++ l :: ls) = front ++ l :: trimmed ls := by
  classical
  have kept := trimmed_cons_of_ne h ls
  rw [trimmed] at kept ⊢
  rw [rdropWhile_append, kept, if_neg (by simp)]

theorem trimmed_snoc_of_ne (h : l ≠ slash) (ls : List (Language Char)) :
    trimmed (ls ++ [l]) = ls ++ [l] :=
  trimmed_append_of_ne h ls []

theorem trimmed_snoc_slash (ls : List (Language Char)) : trimmed (ls ++ [slash]) = trimmed ls := by
  classical
  exact List.rdropWhile_concat_pos _ _ _ (by simp)

/-! ## Behind a `**` -/

/-- Whether a language takes along whatever follows one of its strings. -/
def Absorbs (l : Language Char) : Prop := l * ⊤ = l

theorem Absorbs.append_mem (h : Absorbs l) (hs : s ∈ l) (more : List Char) : s ++ more ∈ l := by
  rw [← h]
  exact Language.append_mem_mul hs (mem_top more)

/-- What may be nothing adds nothing. -/
theorem Absorbs.mul_eq (h : Absorbs l) (none : [] ∈ k) : l * k = l := by
  ext s
  constructor
  · intro hs
    obtain ⟨a, ha, b, -, rfl⟩ := Language.mem_mul.mp hs
    exact h.append_mem ha b
  · intro hs
    rw [← List.append_nil s]
    exact Language.append_mem_mul hs none

theorem absorbs_mul_top (l : Language Char) : Absorbs (l * ⊤) := by
  have twice : (⊤ : Language Char) * ⊤ = ⊤ := by
    ext s
    exact ⟨fun _ => mem_top s, fun _ => Language.append_mem_mul (mem_top []) (mem_top s)⟩
  rw [Absorbs, mul_assoc, twice]

/-- What stands before a place absorbs if a `**` stands directly there, with a separator behind it
or without. -/
def Covers (l : Language Char) (before : Before) : Prop := before ≠ .other → Absorbs l

/-- With a `**` more, what stands before absorbs in any case. -/
theorem Covers.mul_reach (h : Covers l before) : Absorbs (l * reach (before = .pathSlash)) := by
  by_cases covered : before = .pathSlash
  · have absorbs : Absorbs l := h (by simp [covered])
    rwa [absorbs.mul_eq (nil_mem_reach _)]
  · have all : reach (before = .pathSlash) = ⊤ := by simp [reach, covered]
    rw [all]
    exact absorbs_mul_top l

theorem Covers.step (h : Covers l before) (seen : Bool) (t : Token) :
    Covers (l * t.language seen before) (t.after before) := by
  intro direct
  cases t with
  | anyPath =>
    rw [language_anyPath_eq]
    exact h.mul_reach
  | separator =>
    by_cases path : before = .path
    · have absorbs : Absorbs l := h (by simp [path])
      have between : Token.separator.language seen before = link seen := by
        rw [Token.language, if_pos path, link]
      rwa [between, absorbs.mul_eq (nil_mem_link seen)]
    · exact absurd (by rw [Token.after, if_neg path]) direct
  | _ => exact absurd rfl direct

theorem Covers.past (h : Covers l before) (seen : Bool) (ts : List Token) :
    Covers (l * (languages seen before ts).prod) (past seen before ts).2 := by
  induction ts generalizing l seen before with
  | nil => simpa [languages, Glob.past] using h
  | cons t ts ih =>
    rw [languages, List.prod_cons, ← mul_assoc]
    exact ih (h.step seen t) _

/-- Tokens from the start of a glob absorb if they end in a `**`, with a separator or without. -/
theorem covers_front (us : List Token) :
    Covers (languages false .other us).prod (past false .other us).2 := by
  have start : Covers 1 .other := fun direct => absurd rfl direct
  simpa using start.past false us

/-! ## The same tokens behind others -/

/-- Languages that stand for no more than others, also without the separators at the end. -/
structure Within (ls ls' : List (Language Char)) : Prop where
  prod : (trimmed ls).prod ≤ (trimmed ls').prod
  empty : trimmed ls = [] ↔ trimmed ls' = []

theorem Within.refl (ls : List (Language Char)) : Within ls ls := ⟨le_refl _, Iff.rfl⟩

theorem Within.cons (more : l ≤ l') (ends : l = slash ↔ l' = slash) (h : Within ls ls') :
    Within (l :: ls) (l' :: ls') := by
  classical
  have both : (trimmed ls = [] ∧ l = slash) ↔ (trimmed ls' = [] ∧ l' = slash) :=
    and_congr h.empty ends
  by_cases dropped : trimmed ls = [] ∧ l = slash
  · constructor <;> simp [trimmed_cons, dropped, both.mp dropped]
  · have kept : ¬ (trimmed ls' = [] ∧ l' = slash) := mt both.mpr dropped
    constructor
    · rw [trimmed_cons, trimmed_cons, if_neg dropped, if_neg kept, List.prod_cons, List.prod_cons]
      exact mul_le_mul' more h.prod
    · simp [trimmed_cons, dropped, kept]

/-- Where a separator was seen, tokens stand for no less. -/
theorem within_seen (seen : Bool) (before : Before) (ts : List Token) :
    Within (languages false before ts) (languages seen before ts) := by
  cases seen with
  | false => exact .refl _
  | true =>
    induction ts generalizing before with
    | nil => exact .refl _
    | cons t ts ih =>
      cases t with
      | separator =>
        by_cases path : before = .path
        · subst path
          rw [languages_link, languages_link]
          have more : link false ≤ link true := fun s none => mem_pair.mpr (.inl none)
          exact .cons more (iff_of_false (link_ne_slash false) (link_ne_slash true)) (ih _)
        · rw [languages_slash path, languages_slash path]
          exact .refl _
      | _ => exact .cons (le_refl _) Iff.rfl (ih _)

/-- Directly behind what absorbs, tokens stand for no less than they do at the start of a glob: the
`**` that they may begin with adds nothing there. -/
theorem Absorbs.mul_start_le (h : Absorbs l) (seen : Bool) (ts : List Token) :
    l * (trimmed (languages false .other ts)).prod ≤
      l * (trimmed (languages seen .pathSlash ts)).prod := by
  have beside {ks : List (Language Char)} (within : Within ks (languages seen .pathSlash ts)) :
      l * (trimmed ks).prod ≤ l * (trimmed (languages seen .pathSlash ts)).prod :=
    mul_le_mul' (le_refl l) within.prod
  rcases ts with _ | ⟨t, ts⟩
  · exact le_refl _
  cases t with
  | anyPath =>
    rw [languages_anyPath, languages_anyPath, prod_trimmed_cons (reach_ne_slash _),
      prod_trimmed_cons (reach_ne_slash _), ← mul_assoc, ← mul_assoc,
      h.mul_eq (nil_mem_reach _), h.mul_eq (nil_mem_reach _)]
    exact mul_le_mul' (le_refl l) (within_seen _ _ _).prod
  | separator =>
    refine beside ?_
    rw [languages_slash (by simp), languages_slash (by simp)]
    exact .refl _
  | _ => exact beside (.cons (le_refl _) Iff.rfl (within_seen _ _ _))

end TabAudit.Glob
