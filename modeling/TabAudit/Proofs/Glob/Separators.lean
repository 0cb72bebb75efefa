import TabAudit.Proofs.Glob.Context
import TabAudit.Proofs.Glob.Join

/-!
# Separators that do not matter

A glob means the same without the separators in front and at the end, and with one separator for
each run of them (`tidy`). It also means the same with one `**` in the place of two that have only
separators between them. Neither makes a glob usable that was not, or the other way round.
-/

namespace TabAudit

namespace Glob

/-! ## A glob with no separator to spare -/

/-- A glob with one separator for each run of unescaped ones. -/
def squeeze : List Char → List Char
  | [] => []
  | '\\' :: c :: rest => '\\' :: c :: squeeze rest
  | '/' :: '/' :: rest => squeeze ('/' :: rest)
  | c :: rest => c :: squeeze rest

/-- A glob without the unescaped separators at its end. -/
def dropEnd (glob : List Char) : List Char :=
  ((marks false glob).rdropWhile (· = bare '/')).map Mark.char

/-- A glob without the separators in front and at the end, and with one for each run. -/
def tidy (glob : List Char) : List Char :=
  dropEnd (squeeze (glob.dropWhile (· = '/')))

variable {glob rest pre post : List Char} {c : Char} {ts : List Token}

theorem squeeze_cons (escape : c ≠ '\\') (slash : c ≠ '/') (rest : List Char) :
    squeeze (c :: rest) = c :: squeeze rest := by
  rw [squeeze] <;> simp_all

theorem head?_squeeze (glob : List Char) : (squeeze glob).head? = glob.head? := by
  fun_induction squeeze glob with
  | case3 rest ih => exact ih
  | _ => rfl

theorem squeeze_separators (more : Nat) (last : rest.head? ≠ some '/') :
    squeeze ('/' :: (List.replicate more '/' ++ rest)) = '/' :: squeeze rest := by
  induction more with
  | zero =>
    cases rest with
    | nil => rfl
    | cons c rest => rw [List.replicate_zero, List.nil_append, squeeze] <;> simp_all
  | succ more ih => rw [List.replicate_succ, List.cons_append, squeeze, ih]

/-- A run of separators is one token, however long it is. -/
theorem cut_squeeze (cut : Cut glob ts) : Cut (squeeze glob) ts := by
  induction cut with
  | done => exact .done
  | loneEscape => exact .loneEscape
  | escaped c _ ih => exact .escaped c ih
  | anyPath _ ih => exact .anyPath ih
  | anyRun single _ ih => exact .anyRun (by rwa [head?_squeeze]) ih
  | anyChar _ ih => exact .anyChar ih
  | separator more last _ ih =>
    rw [squeeze_separators more last]
    exact .separator 0 (by rwa [head?_squeeze]) ih
  | ordinary c plain _ ih =>
    obtain ⟨escape, -, -, slash⟩ := notMem_special.mp plain
    rw [squeeze_cons escape slash]
    exact .ordinary c plain ih

theorem dropEnd_prefix (glob : List Char) : dropEnd glob <+: glob := by
  have front := (List.rdropWhile_prefix (· = bare '/') (marks false glob)).map Mark.char
  rwa [map_char_marks] at front

/-- A glob without its end begins with no other character. -/
theorem head?_dropEnd_ne (first : glob.head? ≠ some c) : (dropEnd glob).head? ≠ some c := by
  obtain ⟨rest, whole⟩ := dropEnd_prefix glob
  intro same
  rw [← whole, List.head?_append, same] at first
  exact first rfl

theorem dropEnd_cons (escape : c ≠ '\\') (slash : c ≠ '/') (rest : List Char) :
    dropEnd (c :: rest) = c :: dropEnd rest := by
  have kept : ¬ ((marks false rest).rdropWhile (· = bare '/') = [] ∧
      decide (bare c = bare '/') = true) := by simp [bare, slash]
  rw [dropEnd, marks_of_ne escape, rdropWhile_cons, if_neg kept]
  rfl

theorem dropEnd_escape (c : Char) (rest : List Char) :
    dropEnd ('\\' :: c :: rest) = '\\' :: c :: dropEnd rest := by
  rw [dropEnd, marks_escape, rdropWhile_cons, rdropWhile_cons]
  simp [bare, dropEnd]

theorem dropEnd_separators (more : Nat) (rest : List Char) :
    dropEnd ('/' :: (List.replicate more '/' ++ rest)) =
      if dropEnd rest = [] then [] else '/' :: (List.replicate more '/' ++ dropEnd rest) := by
  have run : (List.replicate (more + 1) (bare '/')).rdropWhile (· = bare '/') = [] :=
    List.rdropWhile_eq_nil_iff.mpr fun m hm => by simp [List.eq_of_mem_replicate hm]
  rw [dropEnd, marks_separators, rdropWhile_append, run, apply_ite (List.map Mark.char),
    List.map_append, List.map_replicate]
  simp only [dropEnd, List.map_eq_nil_iff, List.map_nil, bare, List.replicate_succ,
    List.cons_append]

/-- Without the separators at the end of a glob the last tokens are gone if they are separators. -/
theorem cut_dropEnd (cut : Cut glob ts) : Cut (dropEnd glob) (ts.rdropWhile (· = .separator)) := by
  have keep {t : Token} (h : t ≠ .separator) (ts : List Token) :
      (t :: ts).rdropWhile (· = .separator) = t :: ts.rdropWhile (· = .separator) := by
    rw [rdropWhile_cons, if_neg (by simp [h])]
  induction cut with
  | done => exact .done
  | loneEscape => exact .loneEscape
  | escaped c _ ih =>
    rw [dropEnd_escape, keep (by simp)]
    exact .escaped c ih
  | anyPath _ ih =>
    rw [dropEnd_cons (by decide) (by decide), dropEnd_cons (by decide) (by decide), keep (by simp)]
    exact .anyPath ih
  | anyRun single _ ih =>
    rw [dropEnd_cons (by decide) (by decide), keep (by simp)]
    exact .anyRun (head?_dropEnd_ne single) ih
  | anyChar _ ih =>
    rw [dropEnd_cons (by decide) (by decide), keep (by simp)]
    exact .anyChar ih
  | @separator more rest ts last _ ih =>
    rw [dropEnd_separators, rdropWhile_cons]
    -- nothing is left behind the run on the one side just where nothing is on the other
    by_cases none : dropEnd rest = []
    · rw [if_pos none, if_pos ⟨ih.eq_nil_iff.mp none, rfl⟩]
      exact .done
    · rw [if_neg none, if_neg fun dropped => none (ih.eq_nil_iff.mpr dropped.1)]
      exact .separator more (head?_dropEnd_ne last) ih
  | ordinary c plain _ ih =>
    obtain ⟨escape, -, -, slash⟩ := notMem_special.mp plain
    rw [dropEnd_cons escape slash, keep (by simp)]
    exact .ordinary c plain ih

/-- A tidy glob has the tokens of the glob, less the separators in front and at the end. -/
theorem tokens_tidy (glob : List Char) :
    tokens (tidy glob) = (dropLeading (tokens glob)).rdropWhile (· = .separator) := by
  rw [← tokens_dropWhile]
  exact (cut_dropEnd (cut_squeeze (cut_tokens _))).eq_tokens.symm

theorem head?_tidy (glob : List Char) : (tidy glob).head? ≠ some '/' := by
  apply head?_dropEnd_ne
  rw [head?_squeeze]
  intro slash
  have := List.head?_dropWhile_not (· = '/') glob
  simp [slash] at this

/-! ## Faults and languages -/

/-- A separator at the end neither makes a fault nor mends one. -/
theorem firstFault_rdropWhile (ts : List Token) :
    firstFault true (ts.rdropWhile (· = .separator)) = firstFault true ts := by
  induction ts using List.reverseRecOn with
  | nil => rfl
  | append_singleton ts t ih =>
    by_cases separator : t = .separator
    · rw [List.rdropWhile_concat_pos _ _ _ (by simp [separator]), ih, separator,
        firstFault_append_separator]
      exact (Option.or_none).symm
    · rw [List.rdropWhile_concat_neg _ _ _ (by simp [separator])]

theorem firstFault_tidy (glob : List Char) :
    firstFault true (tokens (tidy glob)) = firstFault true (tokens glob) := by
  rw [tokens_tidy, firstFault_rdropWhile, firstFault_dropLeading_eq]

/-- A separator at the end is dropped, or stands behind a `**` that takes what it would take. -/
theorem prod_append_separator (ts : List Token) :
    (trimmed (languages false .other (ts ++ [.separator]))).prod =
      (trimmed (languages false .other ts)).prod := by
  have covers := covers_front ts
  rw [languages_append]
  rcases h : past false .other ts with ⟨seen, before⟩
  rw [h] at covers
  by_cases path : before = .path
  · subst path
    obtain ⟨front, rfl⟩ := past_eq_path (congrArg Prod.snd h)
    have whole : trimmed (languages false .other (front ++ [.anyPath])) =
        languages false .other (front ++ [.anyPath]) := by
      rw [languages_append, languages_anyPath]
      exact trimmed_snoc_of_ne (reach_ne_slash _) _
    have absorbs := covers (by simp)
    rw [languages_link, languages, trimmed_snoc_of_ne (link_ne_slash seen), whole,
      List.prod_append, List.prod_singleton, absorbs.mul_eq (nil_mem_link seen)]
  · rw [languages_slash path, languages, trimmed_snoc_slash]

theorem prod_rdropWhile (ts : List Token) :
    (trimmed (languages false .other (ts.rdropWhile (· = .separator)))).prod =
      (trimmed (languages false .other ts)).prod := by
  induction ts using List.reverseRecOn with
  | nil => rfl
  | append_singleton ts t ih =>
    by_cases separator : t = .separator
    · rw [List.rdropWhile_concat_pos _ _ _ (by simp [separator]), ih, separator,
        prod_append_separator]
    · rw [List.rdropWhile_concat_neg _ _ _ (by simp [separator])]

/-- A tidy glob stands for the same paths. -/
theorem language_tidy (glob : List Char) : language (tidy glob) = language glob := by
  rw [language_eq, language_eq, (cut_tokens (tidy glob)).dropLeading (head?_tidy glob),
    tokens_tidy, prod_rdropWhile]

/-! ## Two `**` in a row -/

/-- A second `**` and the separator before it add nothing. -/
theorem prod_anyPath_twice (us vs : List Token) :
    (trimmed (languages false .other (us ++ .anyPath :: .separator :: .anyPath :: vs))).prod =
      (trimmed (languages false .other (us ++ .anyPath :: vs))).prod := by
  have covers := covers_front us
  rw [languages_append, languages_append]
  generalize past false .other us = state at covers ⊢
  obtain ⟨seen, before⟩ := state
  have absorbs := covers.mul_reach
  rw [languages_anyPath, languages_anyPath, languages_link, languages_anyPath,
    trimmed_append_of_ne (reach_ne_slash _), trimmed_append_of_ne (reach_ne_slash _),
    trimmed_cons_of_ne (link_ne_slash seen), trimmed_cons_of_ne (reach_ne_slash _)]
  simp only [List.prod_append, List.prod_cons, ← mul_assoc]
  rw [absorbs.mul_eq (nil_mem_link seen), absorbs.mul_eq (nil_mem_reach _)]

theorem dropLeading_append_anyPath (us vs : List Token) :
    dropLeading (us ++ .anyPath :: vs) = dropLeading us ++ .anyPath :: vs := by
  rcases us with _ | ⟨t, us⟩
  · rfl
  · cases t <;> rfl

/-- A second `**` is one more token, and so is the run of separators before it. -/
theorem tokens_anyPath_twice (seam : ∀ behind, Seam (marks false pre) ('*' :: '*' :: behind))
    (more : Nat) (post : List Char) :
    tokens (pre ++ '*' :: '*' :: '/' :: (List.replicate more '/' ++ '*' :: '*' :: post)) =
        tokens pre ++ .anyPath :: .separator :: .anyPath :: tokens post ∧
      tokens (pre ++ '*' :: '*' :: post) = tokens pre ++ .anyPath :: tokens post := by
  constructor
  · rw [tokens_append (seam _), tokens, tokens_separators more (by simp), tokens]
  · rw [tokens_append (seam _), tokens]

/-- Where a `**` may be followed by another, one alone is in place. -/
theorem firstFault_anyPath_once {us vs : List Token}
    (sound : firstFault true (us ++ .anyPath :: .separator :: .anyPath :: vs) = none) :
    firstFault true (us ++ .anyPath :: vs) = none := by
  rw [List.append_cons, firstFault_append_separator, Option.or_eq_none_iff] at sound
  obtain ⟨first, second⟩ := sound
  rcases vs with _ | ⟨t, vs⟩
  · exact first
  cases t with
  | separator =>
    rw [List.append_cons, firstFault_append_separator, first]
    exact second
  | _ => cases second

end Glob

namespace Pattern

open Glob

/-- Globs with one language take the same paths. -/
theorem accepts_eq_of_language {glob glob' : String} {p q : Pattern} (hp : compile glob = .ok p)
    (hq : compile glob' = .ok q) (same : language glob.toList = language glob'.toList)
    (path : String) : p.accepts path = q.accepts path := by
  rw [Bool.eq_iff_iff, accepts_compiled hp, accepts_compiled hq, same]

/-- A glob is as usable as the tidy one, is refused for the same fault, and takes the same paths.
In a glob that can be used, one `**` does for two with only separators between them, wherever they
stand; only the first star must not be protected by a backslash. -/
theorem compile_separators (glob : String) :
    (∀ fault, compile glob = .error ⟨glob, fault⟩ ↔
        compile (String.ofList (tidy glob.toList)) =
          .error ⟨String.ofList (tidy glob.toList), fault⟩) ∧
      ((∃ p, compile glob = .ok p) ↔ ∃ q, compile (String.ofList (tidy glob.toList)) = .ok q) ∧
      (∀ p q, compile glob = .ok p → compile (String.ofList (tidy glob.toList)) = .ok q →
        ∀ path, p.accepts path = q.accepts path) ∧
      ∀ pre more post p,
        glob.toList = pre ++ '*' :: '*' :: '/' :: (List.replicate more '/' ++ '*' :: '*' :: post) →
        ¬ Dangles (marks false pre) → compile glob = .ok p →
        ∃ q, compile (String.ofList (pre ++ '*' :: '*' :: post)) = .ok q ∧
          ∀ path, p.accepts path = q.accepts path := by
  have fault : firstFault true (tokens (String.ofList (tidy glob.toList)).toList) =
      firstFault true (tokens glob.toList) := by
    rw [String.toList_ofList, firstFault_tidy]
  refine ⟨fun reason => ?_, ?_, fun p q hp hq => ?_, fun pre more post p twice whole hp => ?_⟩
  · simp only [compile_eq_error_iff, fault, GlobError.mk.injEq, true_and]
  · rw [exists_compile_eq_ok_iff, exists_compile_eq_ok_iff, fault]
  · apply accepts_eq_of_language hp hq
    rw [String.toList_ofList, language_tidy]
  · have sound : firstFault true (tokens glob.toList) = none :=
      exists_compile_eq_ok_iff.mp ⟨p, hp⟩
    rw [twice] at sound
    have seam (behind : List Char) := seam_of_sound whole sound behind
    obtain ⟨two, one⟩ := tokens_anyPath_twice seam more post
    have usable : firstFault true (tokens (String.ofList (pre ++ '*' :: '*' :: post)).toList) =
        none := by
      rw [two] at sound
      rw [String.toList_ofList, one]
      exact firstFault_anyPath_once sound
    obtain ⟨q, hq⟩ := exists_compile_eq_ok_iff.mpr usable
    refine ⟨q, hq, accepts_eq_of_language hp hq ?_⟩
    rw [String.toList_ofList, language_eq, language_eq, twice, two, one,
      dropLeading_append_anyPath, dropLeading_append_anyPath, prod_anyPath_twice]

/-- A glob with separators to spare, and two `**` where one would do. -/
theorem compile_separators_spare :
    tidy "/a//**/**/".toList = "a/**/**".toList ∧
      ∃ p q r, compile "/a//**/**/" = .ok p ∧ compile "a/**/**" = .ok q ∧
        compile "/a//**/" = .ok r ∧ p.text ≠ q.text ∧
        ∀ path, p.accepts path = q.accepts path ∧ p.accepts path = r.accepts path := by
  have tidied : tidy "/a//**/**/".toList = "a/**/**".toList := by decide
  have made : compile "/a//**/**/" = .ok ⟨"/a//**/**/", "a/.*/?/?",
      [⟨.exactly 'a', .one⟩, ⟨.exactly '/', .one⟩, ⟨.any, .many⟩, ⟨.exactly '/', .optional⟩,
        ⟨.exactly '/', .optional⟩]⟩ := by cbv
  have short : compile "a/**/**" = .ok ⟨"a/**/**", "a/.*/?",
      [⟨.exactly 'a', .one⟩, ⟨.exactly '/', .one⟩, ⟨.any, .many⟩,
        ⟨.exactly '/', .optional⟩]⟩ := by cbv
  have whole : ¬ Dangles (marks false "/a//".toList) := by
    rw [Dangles]
    decide
  obtain ⟨-, -, tidy_same, once⟩ := compile_separators "/a//**/**/"
  obtain ⟨r, single, once_same⟩ := once "/a//".toList 0 "/".toList _ (by decide) whole made
  refine ⟨tidied, _, _, r, made, short, single, by decide, fun path => ⟨?_, once_same path⟩⟩
  exact tidy_same _ _ made (by rw [tidied]; exact short) path

end Pattern

end TabAudit
