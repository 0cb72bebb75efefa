import TabAudit.Proofs.Glob.Context
import TabAudit.Proofs.Glob.Join

/-!
# What a `**` between two globs spans

Two globs with `/**/` between them take what both take, with a separator or with any number of
further components between. The `**` behind the first glob takes the separators and components
along, so nothing that the second glob stands for at the start of a path is lost behind it.
-/

namespace TabAudit

namespace Glob

variable {glob a b s : List Char} {us vs ts : List Token}

/-! ## The tokens -/

/-- A separator and a glob behind it. -/
theorem tokens_slash (glob : List Char) :
    tokens ('/' :: glob) = .separator :: dropLeading (tokens glob) := by
  rw [← tokens_dropWhile]
  obtain ⟨more, rest, rfl, last, -⟩ := separators_split glob
  rw [tokens_separators more last, dropWhile_separators more last]

theorem getLast?_of_marks {c : Char} (h : (marks false glob).getLast? = some (bare c)) :
    glob.getLast? = some c := by
  rw [← map_char_marks false glob, List.getLast?_map, h]
  rfl

/-- Between two globs, `/**/` is three tokens. -/
theorem tokens_spanning (sound : firstFault true (tokens glob) = none)
    (ends : glob.getLast? ≠ some '/') (behind : List Char) :
    tokens (glob ++ '/' :: '*' :: '*' :: '/' :: behind) =
      tokens glob ++ .separator :: .anyPath :: .separator :: dropLeading (tokens behind) := by
  have seam : Seam (marks false glob) ('/' :: '*' :: '*' :: '/' :: behind) :=
    ⟨(firstFault_tokens_eq_none.mp sound).2, by simp,
      fun slash => absurd (getLast?_of_marks slash) ends⟩
  rw [tokens_append seam, tokens_slash]
  have stars : tokens ('*' :: '*' :: '/' :: behind) =
      .anyPath :: .separator :: dropLeading (tokens behind) := by
    rw [tokens, tokens_slash]
  rw [stars]
  rfl

/-! ## The languages -/

theorem ends_tail {c : Char} (ends : (c :: glob).getLast? ≠ some '/') :
    glob.getLast? ≠ some '/' := by
  intro slash
  rw [List.getLast?_cons, slash] at ends
  exact ends rfl

/-- Nothing is dropped at the end of a glob that does not end in a separator. -/
theorem trimmed_languages (cut : Cut glob ts) (ends : glob.getLast? ≠ some '/') (seen : Bool)
    (before : Before) : trimmed (languages seen before ts) = languages seen before ts := by
  classical
  -- a language that is no separator is kept, and so is one with another behind it
  have keep {t : Token} {rest : List Char} {ts : List Token} (seen : Bool) (before : Before)
      (cut : Cut rest ts) (last : rest = [] → t.language seen before ≠ slash)
      (ih : ∀ seen before, trimmed (languages seen before ts) = languages seen before ts) :
      trimmed (languages seen before (t :: ts)) = languages seen before (t :: ts) := by
    rw [languages, trimmed_cons, ih, if_neg]
    rintro ⟨none, same⟩
    refine last (cut.eq_nil_iff.mpr ?_) same
    cases ts with
    | nil => rfl
    | cons t ts => cases none
  induction cut generalizing seen before with
  | done => rfl
  | loneEscape =>
    refine trimmed_cons_of_ne (fun none => ?_) []
    have member : ['/'] ∈ Token.loneEscape.language seen before := none ▸ mem_single.mpr rfl
    exact Language.notMem_zero _ member
  | escaped c cut ih =>
    refine keep seen before cut ?_ (ih (ends_tail (ends_tail ends)))
    rintro rfl same
    exact ends (by rw [(single_eq_slash c).mp same]; rfl)
  | anyPath cut ih =>
    refine keep seen before cut (fun _ => ?_) (ih (ends_tail (ends_tail ends)))
    rw [language_anyPath_eq]
    exact reach_ne_slash _
  | anyRun single cut ih =>
    exact keep seen before cut (fun _ => language_anyRun_ne_slash) (ih (ends_tail ends))
  | anyChar cut ih =>
    exact keep seen before cut (fun _ => language_anyChar_ne_slash) (ih (ends_tail ends))
  | @separator more rest ts last cut ih =>
    have behind : rest ≠ [] := by
      rintro rfl
      rw [List.append_nil, ← List.replicate_succ, List.replicate_succ',
        List.getLast?_concat] at ends
      exact ends rfl
    refine keep seen before cut (fun none => absurd none behind) (ih fun slash => ends ?_)
    rw [← List.cons_append, List.getLast?_append, slash]
    rfl
  | ordinary c plain cut ih =>
    refine keep seen before cut (fun _ same => plain ?_) (ih (ends_tail ends))
    rw [(single_eq_slash c).mp same]
    decide

/-- A separator and a `**` behind tokens take a separator and whatever follows. -/
theorem mem_prod_reach (ha : a ∈ (languages false .other us).prod) (more : List Char) :
    a ++ '/' :: more ∈ (languages false .other (us ++ [.separator, .anyPath])).prod := by
  have covers := covers_front us
  rw [languages_append, List.prod_append]
  generalize past false .other us = state at covers ⊢
  obtain ⟨seen, before⟩ := state
  by_cases path : before = .path
  · -- the tokens end in a `**`, which takes it all
    subst path
    have absorbs := covers (by simp)
    rw [languages_link, languages_anyPath, languages, List.prod_cons, List.prod_singleton,
      ← mul_assoc, absorbs.mul_eq (nil_mem_link seen), absorbs.mul_eq (nil_mem_reach _)]
    exact absorbs.append_mem ha _
  · rw [languages_slash path, languages_anyPath, languages, List.prod_cons, List.prod_singleton]
    have one : ['/'] ∈ slash := mem_single.mpr rfl
    exact Language.append_mem_mul ha (Language.append_mem_mul one (mem_top more))

/-- Behind a `**` and a separator a glob takes what it takes at the start. -/
theorem append_mem_prod (path : (past false .other us).2 = .path)
    (ha : a ∈ (languages false .other us).prod)
    (hb : b ∈ (trimmed (languages false .other vs)).prod) :
    a ++ b ∈ (trimmed (languages false .other (us ++ .separator :: vs))).prod := by
  have absorbs : Absorbs (languages false .other us).prod := covers_front us (by simp [path])
  rw [languages_append, path]
  generalize (past false .other us).1 = seen
  rw [languages_link, trimmed_append_of_ne (link_ne_slash seen), List.prod_append, List.prod_cons,
    ← mul_assoc, absorbs.mul_eq (nil_mem_link seen)]
  exact absorbs.mul_start_le seen vs (Language.append_mem_mul ha hb)

theorem getLast?_dropWhile {c : Char} {p : Char → Bool}
    (h : (glob.dropWhile p).getLast? = some c) : glob.getLast? = some c := by
  rw [← List.takeWhile_append_dropWhile (p := p) (l := glob), List.getLast?_append, h]
  rfl

/-- What two globs take is taken with anything between that begins with a separator. -/
theorem mem_language_spanning {behind : List Char} (sound : firstFault true (tokens glob) = none)
    (ends : glob.getLast? ≠ some '/') (ha : a ∈ language glob) (hb : b ∈ language behind)
    (more : List Char) :
    a ++ '/' :: (more ++ b) ∈ language (glob ++ '/' :: '*' :: '*' :: '/' :: behind) := by
  have whole : trimmed (languages false .other (dropLeading (tokens glob))) =
      languages false .other (dropLeading (tokens glob)) := by
    rw [← tokens_dropWhile]
    exact trimmed_languages (cut_tokens _) (fun slash => ends (getLast?_dropWhile slash)) _ _
  rw [language_eq] at hb ⊢
  rw [language_eq, whole] at ha
  rw [tokens_spanning sound ends, ← List.cons_append, ← List.append_assoc]
  rcases us : tokens glob with _ | ⟨t, rest⟩
  · -- the separator in front is dropped, and the `**` takes all that stands before
    have path : (past false .other [.anyPath]).2 = .path := rfl
    exact append_mem_prod path (by simp [languages, Token.language, mem_top]) hb
  · have front : dropLeading (t :: rest ++ .separator :: .anyPath :: .separator ::
          dropLeading (tokens behind)) =
        (dropLeading (t :: rest) ++ [.separator, .anyPath]) ++ .separator ::
          dropLeading (tokens behind) := by
      cases t <;> simp [dropLeading]
    rw [us] at ha
    rw [front]
    refine append_mem_prod ?_ (mem_prod_reach ha more) hb
    rw [past_append]
    rfl

end Glob

namespace Pattern

open Glob

/-- Two globs that can be used can be used with `/**/` between them, and then take what both take
with a separator or with any directories between. -/
theorem compile_spanning {A B : String} {p q : Pattern} (hA : compile A = .ok p)
    (hB : compile B = .ok q) (ends : A.toList.getLast? ≠ some '/') :
    ∃ r, compile (A ++ "/**/" ++ B) = .ok r ∧
      ∀ a b m : String, p.accepts a = true → q.accepts b = true →
        r.accepts (a ++ "/" ++ b) = true ∧ r.accepts (a ++ "/" ++ m ++ "/" ++ b) = true := by
  have soundA : firstFault true (tokens A.toList) = none := exists_compile_eq_ok_iff.mp ⟨p, hA⟩
  have soundB : firstFault true (tokens B.toList) = none := exists_compile_eq_ok_iff.mp ⟨q, hB⟩
  have text : (A ++ "/**/" ++ B).toList = A.toList ++ '/' :: '*' :: '*' :: '/' :: B.toList := by
    simp
  have sound : firstFault true (tokens (A ++ "/**/" ++ B).toList) = none := by
    rw [text, tokens_spanning soundA ends, firstFault_append_separator, soundA]
    exact (firstFault_dropLeading_eq _).trans soundB
  obtain ⟨r, made⟩ := exists_compile_eq_ok_iff.mpr sound
  refine ⟨r, made, fun a b m ha hb => ?_⟩
  have spans (more : List Char) := mem_language_spanning soundA ends
    ((accepts_compiled hA a).mp ha) ((accepts_compiled hB b).mp hb) more
  constructor
  · rw [accepts_compiled made, text]
    simpa using spans []
  · rw [accepts_compiled made, text]
    simpa using spans (m.toList ++ ['/'])

/-- A glob that ends in a `**`, and one that begins with a separator and a `**`. -/
theorem compile_spanning_paths :
    ∃ r, compile "src/**/**//**/*.c" = .ok r ∧ r.accepts "src/a/b/c.c" = true ∧
      r.accepts "src/a/x/y/b/c.c" = true := by
  have first : compile "src/**" = .ok ⟨"src/**", "src/.*", [⟨.exactly 's', .one⟩,
      ⟨.exactly 'r', .one⟩, ⟨.exactly 'c', .one⟩, ⟨.exactly '/', .one⟩, ⟨.any, .many⟩]⟩ := by cbv
  have second : compile "/**/*.c" = .ok ⟨"/**/*.c", ".*[^/]*\\.c", [⟨.any, .many⟩,
      ⟨.notSlash, .many⟩, ⟨.exactly '.', .one⟩, ⟨.exactly 'c', .one⟩]⟩ := by cbv
  obtain ⟨r, made, spans⟩ := compile_spanning first second (by decide)
  exact ⟨r, made, spans "src/a" "b/c.c" "x/y" (by cbv) (by cbv)⟩

end Pattern

end TabAudit
