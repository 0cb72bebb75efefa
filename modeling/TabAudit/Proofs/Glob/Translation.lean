import Mathlib
import TabAudit.Proofs.Glob.Language
import TabAudit.Proofs.Regex.Meaning

/-!
# A compiled glob takes what the glob stands for

The parts of a glob are written as text and the text is read back. `read_write` says that nothing
that is written is read as something else, and `translate_agrees` follows the tokens to show that
the parts have the language of the glob. Together they give what a compiled glob takes.
-/

namespace TabAudit

namespace Glob

/-! ## What is written is read back -/

/-- Whether a part is written so that it can be told from what stands around it. -/
def Part.Legible : Part → Prop
  | .plain c => c ∉ Regex.meaningful
  | .quoted c => c.isAlphanum = false
  | _ => True

/-- No part is taken for the count of the one before. -/
theorem readCount_write {ps : List Part} (h : ∀ p ∈ ps, p.Legible) :
    Regex.readCount (write ps) = (.one, write ps) := by
  cases ps with
  | nil => rfl
  | cons p ps =>
    have hp := h p (by simp)
    cases p with
    | plain c =>
      apply Regex.readCount_one <;> rintro head <;> cases head <;>
        exact hp (by simp [Regex.meaningful])
    | _ => rfl

/-- Written parts read as what the parts stand for. -/
theorem read_write {ps : List Part} (h : ∀ p ∈ ps, p.Legible) :
    Regex.read (write ps) = some (ps.map Part.piece) := by
  induction ps with
  | nil => exact Regex.read_nil
  | cons p ps ih =>
    have rest : ∀ q ∈ ps, q.Legible := fun q hq => h q (List.mem_cons_of_mem p hq)
    have legible : p.Legible := h p (by simp)
    -- a part is a class, with its count behind it
    have one {k : CharClass} (class_ : Regex.readClass (write (p :: ps)) = some (k, write ps)) :
        Regex.read (write (p :: ps)) = some (⟨k, .one⟩ :: ps.map Part.piece) := by
      rw [Regex.read_of_readClass class_, readCount_write rest, ih rest]
      rfl
    have counted {k : CharClass} {mark : Char} {n : Count}
        (class_ : Regex.readClass (write (p :: ps)) = some (k, mark :: write ps))
        (count : Regex.readCount (mark :: write ps) = (n, write ps)) :
        Regex.read (write (p :: ps)) = some (⟨k, n⟩ :: ps.map Part.piece) := by
      rw [Regex.read_of_readClass class_, count, ih rest]
      rfl
    cases p with
    | plain c => exact one (Regex.readClass_plain legible _)
    | quoted c => exact one (Regex.readClass_quoted legible _)
    | anyChar => exact one rfl
    | anyRun => exact counted rfl rfl
    | anyPath => exact counted rfl rfl
    | optionalSlash => exact counted rfl rfl

/-- A character that keeps its backslash is no letter or digit. -/
theorem not_alphanum_of_keepsBackslash : ∀ c ∈ keepsBackslash, c.isAlphanum = false := by
  have all : keepsBackslash.all (fun c => !c.isAlphanum) = true := by decide
  simpa using all

/-- What means something in a pattern keeps its backslash. -/
theorem keepsBackslash_of_meaningful : ∀ c ∈ Regex.meaningful, c ∈ keepsBackslash := by
  have all : Regex.meaningful.all (keepsBackslash.contains ·) = true := by decide
  simpa using all

/-- What means something in a pattern means something in a glob, or is reserved. -/
theorem special_or_reserved_of_meaningful :
    ∀ c ∈ Regex.meaningful, c ∈ special ∨ c ∈ reserved := by
  have all : Regex.meaningful.all (fun c => special.contains c || reserved.contains c) = true := by
    decide
  simpa using all

/-- What a token is known to hold once it is cut off a glob. -/
def Token.Proper : Token → Prop
  | .ordinary c => c ∉ special
  | _ => True

theorem Cut.proper {glob : List Char} {ts : List Token} (h : Cut glob ts) :
    ∀ t ∈ ts, t.Proper := by
  induction h with
  | done => simp
  | loneEscape => simp [Token.Proper]
  | ordinary c plain _ ih => exact List.forall_mem_cons.mpr ⟨plain, ih⟩
  | _ => exact List.forall_mem_cons.mpr ⟨trivial, by assumption⟩

theorem legible_ordinary {c : Char} (h : c ∉ special) :
    (if reserved.contains c then Part.quoted c else .plain c).Legible := by
  split
  · rename_i quoted
    apply not_alphanum_of_keepsBackslash
    exact List.mem_append_left _ (List.contains_iff_mem.mp quoted)
  · rename_i plain
    intro meaningful
    rcases special_or_reserved_of_meaningful c meaningful with hs | hr
    · exact h hs
    · exact plain (List.contains_iff_mem.mpr hr)

theorem legible_escaped (c : Char) :
    (if keepsBackslash.contains c then Part.quoted c else .plain c).Legible := by
  split
  · rename_i quoted
    exact not_alphanum_of_keepsBackslash c (List.contains_iff_mem.mp quoted)
  · rename_i plain
    intro meaningful
    exact plain (List.contains_iff_mem.mpr (keepsBackslash_of_meaningful c meaningful))

theorem legible_reach (covered seen : Bool) :
    ∀ p ∈ (if covered then [] else [Part.anyPath]) ++ (if seen then [.optionalSlash] else []),
      p.Legible := by
  cases covered <;> cases seen <;> simp [Part.Legible]

theorem legible_parts (seen covered : Bool) (ts : List Token) (h : ∀ t ∈ ts, t.Proper) :
    ∀ p ∈ parts seen covered ts, p.Legible := by
  fun_induction parts seen covered ts with
  | case1 => simp
  | case2 seen covered rest ih =>
    intro p hp
    rcases List.mem_append.mp hp with hp | hp
    · exact legible_reach covered seen p hp
    · exact ih (fun t ht => h t (by simp [ht])) p hp
  | case3 seen covered rest _ ih =>
    intro p hp
    rcases List.mem_append.mp hp with hp | hp
    · exact legible_reach covered false p (by simpa using hp)
    · exact ih (fun t ht => h t (by simp [ht])) p hp
  | case4 seen covered rest ih =>
    exact List.forall_mem_cons.mpr ⟨by simp [Part.Legible, Regex.meaningful],
      ih fun t ht => h t (by simp [ht])⟩
  | case5 seen covered rest ih | case6 seen covered rest ih =>
    exact List.forall_mem_cons.mpr ⟨trivial, ih fun t ht => h t (by simp [ht])⟩
  | case7 seen covered c rest ih =>
    exact List.forall_mem_cons.mpr ⟨legible_ordinary (h (.ordinary c) (by simp)),
      ih fun t ht => h t (by simp [ht])⟩
  | case8 seen covered c rest ih =>
    exact List.forall_mem_cons.mpr ⟨legible_escaped c, ih fun t ht => h t (by simp [ht])⟩
  | case9 seen covered rest ih => exact ih fun t ht => h t (by simp [ht])

theorem dropTrailing_subset (ps : List Part) : dropTrailing ps ⊆ ps := by
  intro p hp
  exact List.mem_reverse.mp ((List.dropWhile_sublist _).subset (List.mem_reverse.mp hp))

theorem dropLeading_subset (ts : List Token) : dropLeading ts ⊆ ts := by
  unfold dropLeading
  split <;> simp

/-- The text of a translated glob reads as its parts. -/
theorem read_translate (glob : List Char) :
    Regex.read (write (translate (tokens glob))) =
      some ((translate (tokens glob)).map Part.piece) := by
  apply read_write
  intro p hp
  exact legible_parts false false _
    (fun t ht => (cut_tokens glob).proper t (dropLeading_subset _ ht)) p
    (dropTrailing_subset _ hp)

/-! ## The parts have the language of the glob -/

/-- The language of parts. -/
def lang (ps : List Part) : Language Char := (ps.map fun p => p.piece.language).prod

@[simp] theorem lang_nil : lang [] = 1 := rfl

@[simp] theorem lang_cons (p : Part) (ps : List Part) :
    lang (p :: ps) = p.piece.language * lang ps := rfl

theorem language_plain (c : Char) : (Part.plain c).piece.language = {[c]} := by
  ext s
  rw [mem_single, Piece.mem_language]
  simp [Part.piece, Piece.Lang, CharClass.holds]

theorem language_quoted (c : Char) : (Part.quoted c).piece.language = {[c]} :=
  language_plain c

theorem language_anyChar : Part.anyChar.piece.language = {s | ∃ c, c ≠ '/' ∧ s = [c]} := by
  ext s
  rw [Piece.mem_language]
  simp only [Part.piece, Piece.Lang, CharClass.holds, bne_iff_ne]
  rfl

theorem language_anyRun : Part.anyRun.piece.language = {s | '/' ∉ s} := by
  ext s
  rw [Piece.mem_language]
  simp only [Part.piece, Piece.Lang, CharClass.holds, bne_iff_ne]
  exact ⟨fun free slash => free '/' slash rfl, fun free c hc slash => free (slash ▸ hc)⟩

theorem language_anyPath : Part.anyPath.piece.language = ⊤ := by
  ext s
  rw [Piece.mem_language]
  exact ⟨fun _ => mem_top s, fun _ c _ => rfl⟩

theorem language_optionalSlash : Part.optionalSlash.piece.language = {[], ['/']} := by
  ext s
  rw [mem_pair, Piece.mem_language]
  simp [Part.piece, Piece.Lang, CharClass.holds]

theorem dropTrailing_cons (p : Part) (ps : List Part) :
    dropTrailing (p :: ps) =
      if dropTrailing ps = [] ∧ p = .plain '/' then [] else p :: dropTrailing ps := by
  have h := rdropWhile_cons (fun q => decide (q = Part.plain '/')) p ps
  simpa [List.rdropWhile, dropTrailing] using h

theorem dropTrailing_cons_of_ne {p : Part} (h : p ≠ .plain '/') (ps : List Part) :
    dropTrailing (p :: ps) = p :: dropTrailing ps := by
  rw [dropTrailing_cons, if_neg fun dropped => h dropped.2]

/-- Parts and token languages that agree but for the separators at their ends. -/
structure Agree (ps : List Part) (ls : List (Language Char)) : Prop where
  lang : lang (dropTrailing ps) = (trimmed ls).prod
  empty : dropTrailing ps = [] ↔ trimmed ls = []

theorem Agree.cons {p : Part} {ps : List Part} {l : Language Char} {ls : List (Language Char)}
    (same : p.piece.language = l) (ends : p = .plain '/' ↔ l = slash) (h : Agree ps ls) :
    Agree (p :: ps) (l :: ls) := by
  classical
  rcases h with ⟨lang, empty⟩
  have both : (dropTrailing ps = [] ∧ p = .plain '/') ↔ (trimmed ls = [] ∧ l = slash) :=
    and_congr empty ends
  constructor
  · rw [dropTrailing_cons, trimmed_cons]
    by_cases dropped : trimmed ls = [] ∧ l = slash
    · rw [if_pos dropped, if_pos (both.mpr dropped)]
      rfl
    · rw [if_neg dropped, if_neg (mt both.mp dropped), lang_cons, List.prod_cons, same, lang]
  · rw [dropTrailing_cons, trimmed_cons]
    by_cases dropped : trimmed ls = [] ∧ l = slash
    · rw [if_pos dropped, if_pos (both.mpr dropped)]
      simp
    · rw [if_neg dropped, if_neg (mt both.mp dropped)]
      simp

theorem Agree.nil : Agree [] [] := ⟨rfl, by simp [dropTrailing, trimmed]⟩

/-- What stands before the tokens, as the translation keeps it. -/
def standing (covered : Bool) : Before := if covered then .pathSlash else .other

/-- The translation of tokens agrees with their languages. Behind a `**` and its separator only the
joined languages do, as what then adds nothing is left out. -/
def Follows (seen covered : Bool) (ts : List Token) : Prop :=
  lang (dropTrailing (parts seen covered ts)) =
      (trimmed (languages seen (standing covered) ts)).prod ∧
    (covered = false → Agree (parts seen covered ts) (languages seen (standing covered) ts))

/-- A token that is no `**` becomes one part with its language. -/
theorem follows_cons {seen covered divided : Bool} {t : Token} {ts : List Token} {p : Part}
    {l : Language Char} (part : parts seen covered (t :: ts) = p :: parts divided false ts)
    (tongue : languages seen (standing covered) (t :: ts) = l :: languages divided .other ts)
    (same : p.piece.language = l) (ends : p = .plain '/' ↔ l = slash)
    (h : Follows divided false ts) : Follows seen covered (t :: ts) := by
  have agree : Agree (parts seen covered (t :: ts)) (languages seen (standing covered) (t :: ts)) :=
    part ▸ tongue ▸ (h.2 rfl).cons same ends
  exact ⟨agree.lang, fun _ => agree⟩

/-- A character stands for itself, with a backslash before it or without. -/
theorem follows_char {seen covered : Bool} {t : Token} {ts : List Token} {c : Char} {quoted : Bool}
    (part : parts seen covered (t :: ts) =
      (if quoted then .quoted c else .plain c) :: parts seen false ts)
    (tongue : languages seen (standing covered) (t :: ts) = {[c]} :: languages seen .other ts)
    (ends : quoted = true → c ≠ '/') (h : Follows seen false ts) :
    Follows seen covered (t :: ts) := by
  refine follows_cons part tongue ?_ ?_ h
  · cases quoted
    · exact language_plain c
    · exact language_quoted c
  · rw [single_eq_slash]
    cases quoted
    · simp
    · simpa using ends rfl

/-- The language of a `**`. -/
def reach (covered : Bool) : Language Char := if covered then {[]} else ⊤

/-- The language of the separator behind a `**`. -/
def link (seen : Bool) : Language Char := if seen then {[], ['/']} else {[]}

theorem nil_mem_reach (covered : Bool) : [] ∈ reach covered := by
  cases covered
  · exact mem_top []
  · exact mem_single.mpr rfl

theorem reach_ne_slash (covered : Bool) : reach covered ≠ slash :=
  ne_slash_of_nil_mem (nil_mem_reach covered)

theorem nil_mem_link (seen : Bool) : [] ∈ link seen := by
  cases seen
  · exact mem_single.mpr rfl
  · exact mem_pair.mpr (.inl rfl)

theorem link_ne_slash (seen : Bool) : link seen ≠ slash := ne_slash_of_nil_mem (nil_mem_link seen)

/-- A `**` is written unless another covers it. -/
theorem lang_reach (covered : Bool) (ps : List Part) :
    lang (dropTrailing ((if covered then [] else [.anyPath]) ++ ps)) =
      reach covered * lang (dropTrailing ps) := by
  cases covered
  · exact (congrArg lang (dropTrailing_cons_of_ne (by simp) ps)).trans
      (congrArg (· * _) language_anyPath)
  · exact (one_mul _).symm

/-- The separator behind a `**` is written if there is one it could stand for. -/
theorem lang_link (seen : Bool) (ps : List Part) :
    lang (dropTrailing ((if seen then [.optionalSlash] else []) ++ ps)) =
      link seen * lang (dropTrailing ps) := by
  cases seen
  · exact (one_mul _).symm
  · exact (congrArg lang (dropTrailing_cons_of_ne (by simp) ps)).trans
      (congrArg (· * _) language_optionalSlash)

theorem prod_trimmed_cons {l : Language Char} (h : l ≠ slash) (ls : List (Language Char)) :
    (trimmed (l :: ls)).prod = l * (trimmed ls).prod := by
  rw [trimmed_cons_of_ne h, List.prod_cons]

/-- A `**` follows once what is behind it has the same language. -/
theorem follows_reach {seen covered : Bool} {ts : List Token} {ps : List Part}
    {ls : List (Language Char)}
    (part : parts seen covered (.anyPath :: ts) = (if covered then [] else [.anyPath]) ++ ps)
    (tongue : languages seen (standing covered) (.anyPath :: ts) = reach covered :: ls)
    (same : lang (dropTrailing ps) = (trimmed ls).prod) :
    Follows seen covered (.anyPath :: ts) := by
  have whole : lang (dropTrailing (parts seen covered (.anyPath :: ts))) =
      (trimmed (languages seen (standing covered) (.anyPath :: ts))).prod := by
    rw [part, tongue, lang_reach, prod_trimmed_cons (reach_ne_slash covered), same]
  refine ⟨whole, ?_⟩
  rintro rfl
  refine ⟨whole, ?_⟩
  rw [part, tongue, trimmed_cons_of_ne (reach_ne_slash false)]
  simp [dropTrailing_cons_of_ne]

theorem language_anyRun_ne_slash : ({s | '/' ∉ s} : Language Char) ≠ slash :=
  ne_slash_of_nil_mem (show '/' ∉ [] by simp)

theorem language_anyChar_ne_slash : ({s | ∃ c, c ≠ '/' ∧ s = [c]} : Language Char) ≠ slash := by
  intro h
  have : ['a'] ∈ slash := h ▸ ⟨'a', by decide, rfl⟩
  exact absurd (mem_single.mp this) (by decide)

theorem parts_follow (seen covered : Bool) (ts : List Token) {clear : Bool}
    (sound : firstFault clear ts = none) : Follows seen covered ts := by
  fun_induction parts seen covered ts generalizing clear with
  | case1 seen covered => exact ⟨Agree.nil.lang, fun _ => Agree.nil⟩
  | case2 seen covered rest ih =>
    cases clear with
    | false => cases sound
    | true =>
      have tongue : languages seen (standing covered) (.anyPath :: .separator :: rest) =
          reach covered :: link seen :: languages seen .pathSlash rest := by
        cases covered <;> simp [languages, standing, Token.language, Token.divides, Token.after,
          reach, link]
      apply follows_reach (List.append_assoc _ _ _) tongue
      rw [lang_link, prod_trimmed_cons (link_ne_slash seen)]
      exact congrArg (_ * ·) (ih sound).1
  | case3 seen covered rest other ih =>
    rcases rest with _ | ⟨t, rest⟩
    · refine follows_reach (by simp [parts]) ?_ Agree.nil.lang
      cases covered <;> rfl
    · -- nothing but a separator may stand behind a `**`
      cases t <;> first | exact absurd rfl (other rest) | (cases clear <;> cases sound)
  | case4 seen covered rest ih =>
    refine follows_cons rfl ?_ (language_plain '/') (by simp [slash]) (ih sound)
    cases covered <;> simp [languages, standing, Token.language, Token.divides, Token.after]
  | case5 seen covered rest ih =>
    refine follows_cons rfl ?_ language_anyRun ?_ (ih sound)
    · simp [languages, Token.language, Token.divides, Token.after]
    · exact iff_of_false (by simp) language_anyRun_ne_slash
  | case6 seen covered rest ih =>
    refine follows_cons rfl ?_ language_anyChar ?_ (ih sound)
    · simp [languages, Token.language, Token.divides, Token.after]
    · exact iff_of_false (by simp) language_anyChar_ne_slash
  | case7 seen covered c rest ih =>
    refine follows_char rfl ?_ ?_ (ih sound)
    · simp [languages, Token.language, Token.divides, Token.after]
    · rintro quoted rfl
      exact absurd quoted (by decide)
  | case8 seen covered c rest ih =>
    refine follows_char rfl ?_ ?_ (ih sound)
    · simp [languages, Token.language, Token.divides, Token.after]
    · rintro quoted rfl
      exact absurd quoted (by decide)
  | case9 seen covered rest ih => cases sound

theorem firstFault_dropLeading {ts : List Token} (sound : firstFault true ts = none) :
    firstFault true (dropLeading ts) = none := by
  unfold dropLeading
  split
  · exact sound
  · exact sound

/-- The translation of a sound glob has its language. -/
theorem lang_translate {glob : List Char} (sound : firstFault true (tokens glob) = none) :
    lang (translate (tokens glob)) = language glob := by
  rw [language_eq, translate, (parts_follow false false _ (firstFault_dropLeading sound)).1]
  rfl

end Glob

namespace Pattern

theorem compile_eq_ok {glob : String} {p : Pattern} (h : compile glob = .ok p) :
    Glob.firstFault true (Glob.tokens glob.toList) = none ∧
      p = ⟨glob, String.ofList (Glob.write (Glob.translate (Glob.tokens glob.toList))),
        (Glob.translate (Glob.tokens glob.toList)).map Glob.Part.piece⟩ := by
  simp only [compile, Glob.read_translate] at h
  cases sound : Glob.firstFault true (Glob.tokens glob.toList) with
  | some fault => simp [sound] at h
  | none =>
    rw [sound] at h
    cases h
    exact ⟨rfl, rfl⟩

/-- The pattern of a glob has the language of the glob. -/
theorem lang_compiled {glob : String} {p : Pattern} (h : compile glob = .ok p) (s : List Char) :
    p.regex.Lang s ↔ s ∈ Glob.language glob.toList := by
  obtain ⟨sound, rfl⟩ := compile_eq_ok h
  rw [← Glob.lang_translate sound, Regex.lang_iff_mem_prod, List.map_map]
  rfl

theorem accepts_compiled {glob : String} {p : Pattern} (h : compile glob = .ok p) (path : String) :
    p.accepts path = true ↔ path.toList ∈ Glob.language glob.toList :=
  (Regex.accepts_iff_lang _ _).trans (lang_compiled h _)

/-- A compiled glob is its text read back as a pattern, and takes just the paths that the glob
stands for. -/
theorem compile_language {glob : String} {p : Pattern} (h : compile glob = .ok p) :
    Regex.read p.text.toList = some p.regex ∧
      (∀ s, p.regex.Lang s ↔ s ∈ Glob.language glob.toList) ∧
      ∀ path : String, p.accepts path = true ↔ path.toList ∈ Glob.language glob.toList := by
  refine ⟨?_, lang_compiled h, accepts_compiled h⟩
  obtain ⟨-, rfl⟩ := compile_eq_ok h
  rw [String.toList_ofList]
  exact Glob.read_translate glob.toList

/-- A glob with a separator that its `**` may take, and a character with a backslash. -/
theorem compile_language_optional_separator :
    ∃ p, compile "/a/**/b\\*/" = .ok p ∧ p.text = "a/.*/?b\\*" ∧
      Regex.read p.text.toList = some p.regex ∧
      "a/b*".toList ∈ Glob.language "/a/**/b\\*/".toList ∧
      "a/bc".toList ∉ Glob.language "/a/**/b\\*/".toList := by
  have h : compile "/a/**/b\\*/" = .ok ⟨"/a/**/b\\*/", "a/.*/?b\\*",
      [⟨.exactly 'a', .one⟩, ⟨.exactly '/', .one⟩, ⟨.any, .many⟩, ⟨.exactly '/', .optional⟩,
        ⟨.exactly 'b', .one⟩, ⟨.exactly '*', .one⟩]⟩ := by
    cbv
  obtain ⟨text, -, accepts⟩ := compile_language h
  refine ⟨_, h, rfl, text, (accepts _).mp (by cbv), fun member => ?_⟩
  exact absurd ((accepts _).mpr member) (by cbv; decide)

end Pattern

end TabAudit
