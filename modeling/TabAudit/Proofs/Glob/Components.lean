import TabAudit.Proofs.Glob.Separators
import TabAudit.Proofs.Text.Pieces

/-!
# A glob taken component by component

Where a glob has no `**` and no `/` that a backslash protects, each of its tokens but the separators
stays within one component. Such a glob is cut at its separators into globs of their own
(`cut_pieces`), and what it takes is cut in the same way (`mem_prod_pieces`), so a path has to have
as many components, and each glob the component in its place.
-/

namespace TabAudit

namespace Glob

/-- A text with one `/` for each run of them. -/
def collapse : List Char → List Char
  | [] => []
  | '/' :: '/' :: rest => collapse ('/' :: rest)
  | c :: rest => c :: collapse rest

/-- The globs of a glob's components: without the `/` in front and at the end, and with one for each
run, it is cut at every `/`. -/
def components (glob : List Char) : List (List Char) :=
  splitAtEach '/' (collapse ((glob.dropWhile (· = '/')).rdropWhile (· = '/')))

/-- The tokens of a glob without the separators in front and at the end. -/
def inner (glob : List Char) : List Token :=
  (dropLeading (tokens glob)).rdropWhile (· = .separator)

variable {glob rest s : List Char} {c : Char} {t : Token} {us ts : List Token}

/-! ## Tokens without a `**` -/

/-- Without a `**` there is nothing wrong with tokens but a backslash at the end. -/
theorem firstFault_eq_none_iff (h : .anyPath ∉ ts) (clear : Bool) :
    firstFault clear ts = none ↔ .loneEscape ∉ ts := by
  induction ts generalizing clear with
  | nil => simp [firstFault]
  | cons t ts ih =>
    obtain ⟨first, rest⟩ := not_or.mp (mt List.mem_cons.mpr h)
    cases t with
    | anyPath => exact absurd rfl first
    | loneEscape => simp [firstFault]
    | separator => simpa [firstFault] using ih rest true
    | _ => simpa [firstFault] using ih rest false

/-- Without a `**` no token depends on what stands before it. -/
theorem languages_eq_map (h : .anyPath ∉ ts) (seen : Bool) :
    languages seen .other ts = ts.map (Token.language false .other) := by
  induction ts generalizing seen with
  | nil => rfl
  | cons t ts ih =>
    obtain ⟨first, rest⟩ := not_or.mp (mt List.mem_cons.mpr h)
    cases t with
    | anyPath => exact absurd rfl first
    | _ => exact congrArg (_ :: ·) (ih rest _)

/-- A token that takes no `/`, or is a separator and takes nothing else. -/
def Token.Level : Token → Prop
  | .ordinary c => c ≠ '/'
  | .escaped c => c ≠ '/'
  | .anyPath => False
  | _ => True

theorem Cut.level (cut : Cut glob ts) (single : .anyPath ∉ ts) (unescaped : .escaped '/' ∉ ts) :
    ∀ t ∈ ts, t.Level := by
  intro t ht
  cases t with
  | ordinary c => exact (notMem_special.mp (cut.proper _ ht)).2.2.2
  | escaped c => exact fun slash => unescaped (slash ▸ ht)
  | anyPath => exact single ht
  | _ => trivial

theorem language_eq_slash (level : t.Level) :
    t.language false .other = slash ↔ t = .separator := by
  cases t with
  | ordinary c => exact (single_eq_slash c).trans (iff_of_false level (by simp))
  | escaped c => exact (single_eq_slash c).trans (iff_of_false level (by simp))
  | anyChar => exact iff_of_false language_anyChar_ne_slash (by simp)
  | anyRun => exact iff_of_false language_anyRun_ne_slash (by simp)
  | anyPath => exact level.elim
  | separator => simp [Token.language, slash]
  | loneEscape =>
    refine iff_of_false (fun none => ?_) (by simp)
    have member : ['/'] ∈ Token.loneEscape.language false .other := none ▸ mem_single.mpr rfl
    exact Language.notMem_zero _ member

/-- Only separators are dropped at the end. -/
theorem trimmed_map (level : ∀ t ∈ ts, t.Level) :
    trimmed (ts.map (Token.language false .other)) =
      (ts.rdropWhile (· = .separator)).map (Token.language false .other) := by
  classical
  induction ts with
  | nil => rfl
  | cons t ts ih =>
    have rest := ih fun u hu => level u (List.mem_cons_of_mem t hu)
    rw [List.map_cons, trimmed_cons, rest, rdropWhile_cons, language_eq_slash (level t (by simp)),
      apply_ite (List.map _)]
    simp

theorem inner_subset (glob : List Char) : inner glob ⊆ tokens glob := by
  intro t ht
  exact dropLeading_subset _ ((List.rdropWhile_prefix _ _).subset ht)

theorem inner_of_notMem (h : .separator ∉ tokens glob) : inner glob = tokens glob := by
  have first : dropLeading (tokens glob) = tokens glob := by
    unfold dropLeading
    split
    · rename_i same
      simp [same] at h
    · rfl
  rw [inner, first, List.rdropWhile_eq_self_iff]
  intro some_
  have other : (tokens glob).getLast some_ ≠ .separator :=
    fun last => h (last ▸ List.getLast_mem some_)
  simpa using other

/-- A glob stands for what its tokens stand for one by one. -/
theorem language_eq_prod (level : ∀ t ∈ tokens glob, t.Level) :
    language glob = ((inner glob).map (Token.language false .other)).prod := by
  have kept : ∀ t ∈ dropLeading (tokens glob), t.Level :=
    fun t ht => level t (dropLeading_subset _ ht)
  have single : .anyPath ∉ dropLeading (tokens glob) := fun member => kept _ member
  rw [language_eq, languages_eq_map single, trimmed_map kept, inner]

/-! ## Cutting at the separators -/

theorem collapse_cons (slash : c ≠ '/') (rest : List Char) :
    collapse (c :: rest) = c :: collapse rest := by
  rw [collapse]
  simp_all

theorem head?_collapse (text : List Char) : (collapse text).head? = text.head? := by
  fun_induction collapse text with
  | case2 rest ih => exact ih
  | _ => rfl

theorem collapse_separators (more : Nat) (last : rest.head? ≠ some '/') :
    collapse ('/' :: (List.replicate more '/' ++ rest)) = '/' :: collapse rest := by
  induction more with
  | zero =>
    cases rest with
    | nil => rfl
    | cons c rest =>
      rw [List.replicate_zero, List.nil_append, collapse]
      simp_all
  | succ more ih => rw [List.replicate_succ, List.cons_append, collapse, ih]

/-- Where no `/` is protected, every `/` at the end is a separator. -/
theorem dropEnd_eq_rdropWhile (cut : Cut glob ts) (unescaped : .escaped '/' ∉ ts) :
    dropEnd glob = glob.rdropWhile (· = '/') := by
  have keep {c : Char} (slash : c ≠ '/') (rest : List Char) :
      (c :: rest).rdropWhile (· = '/') = c :: rest.rdropWhile (· = '/') := by
    rw [rdropWhile_cons, if_neg (by simp [slash])]
  induction cut with
  | done => rfl
  | loneEscape => rfl
  | @escaped c rest ts _ ih =>
    obtain ⟨other, unescaped⟩ := not_or.mp (mt List.mem_cons.mpr unescaped)
    rw [dropEnd_escape, ih unescaped, keep (by decide), keep fun slash => other (by rw [slash])]
  | anyPath _ ih =>
    rw [dropEnd_cons (by decide) (by decide), dropEnd_cons (by decide) (by decide),
      ih (by simpa using unescaped), keep (by decide), keep (by decide)]
  | anyRun _ _ ih =>
    rw [dropEnd_cons (by decide) (by decide), ih (by simpa using unescaped), keep (by decide)]
  | anyChar _ ih =>
    rw [dropEnd_cons (by decide) (by decide), ih (by simpa using unescaped), keep (by decide)]
  | @separator more rest ts _ _ ih =>
    have run : (List.replicate (more + 1) '/').rdropWhile (· = '/') = [] :=
      List.rdropWhile_eq_nil_iff.mpr fun c hc => by simp [List.eq_of_mem_replicate hc]
    have whole : '/' :: (List.replicate more '/' ++ rest) =
        List.replicate (more + 1) '/' ++ rest := rfl
    rw [dropEnd_separators, ih (by simpa using unescaped), whole, rdropWhile_append, run]
    rfl
  | ordinary c plain _ ih =>
    obtain ⟨escape, -, -, slash⟩ := notMem_special.mp plain
    rw [dropEnd_cons escape slash, ih (by simpa using unescaped), keep slash]

/-- One more token within the first component. -/
theorem forall₂_cut_append (front : List Char) (free : '/' ∉ front) (inside : t ≠ .separator)
    (step : ∀ piece us, piece <+: s → Cut piece us → Cut (front ++ piece) (t :: us))
    (h : List.Forall₂ Cut (splitAtEach '/' s) (splitAtEach .separator ts)) :
    List.Forall₂ Cut (splitAtEach '/' (front ++ s)) (splitAtEach .separator (t :: ts)) := by
  obtain ⟨piece, pieces, text, begins⟩ := exists_splitAtEach_eq_cons '/' s
  obtain ⟨us, uss, tokens, -⟩ := exists_splitAtEach_eq_cons .separator ts
  have longer : splitAtEach .separator (t :: ts) = (t :: us) :: uss :=
    splitAtEach_free_append [t] (by simpa using Ne.symm inside) tokens
  rw [splitAtEach_free_append front free text, longer]
  rw [text, tokens] at h
  cases h with
  | cons cut rest => exact .cons (step piece us begins cut) rest

/-- The globs between separators have the tokens between separators. -/
theorem cut_pieces (cut : Cut glob ts) (unescaped : .escaped '/' ∉ ts) :
    List.Forall₂ Cut (splitAtEach '/' (collapse glob)) (splitAtEach .separator ts) := by
  induction cut with
  | done => exact .cons .done .nil
  | loneEscape => exact .cons .loneEscape .nil
  | @escaped c rest ts _ ih =>
    obtain ⟨other, unescaped⟩ := not_or.mp (mt List.mem_cons.mpr unescaped)
    have slash : c ≠ '/' := fun slash => other (by rw [slash])
    rw [collapse_cons (by decide), collapse_cons slash]
    refine forall₂_cut_append ['\\', c] (by simpa using Ne.symm slash) (by simp)
      (fun _ _ _ cut => ?_) (ih unescaped)
    exact .escaped c cut
  | anyPath _ ih =>
    rw [collapse_cons (by decide), collapse_cons (by decide)]
    refine forall₂_cut_append ['*', '*'] (by decide) (by simp) (fun _ _ _ cut => ?_)
      (ih (by simpa using unescaped))
    exact .anyPath cut
  | @anyRun rest ts single _ ih =>
    rw [collapse_cons (by decide)]
    refine forall₂_cut_append ['*'] (by decide) (by simp) (fun piece us begins cut => ?_)
      (ih (by simpa using unescaped))
    -- The piece begins as the whole text does, so the `*` is not half of a `**` in it.
    have other : piece.head? ≠ some '*' := by
      obtain ⟨more, whole⟩ := begins
      intro star
      rw [← head?_collapse, ← whole, List.head?_append, star] at single
      exact single rfl
    exact .anyRun other cut
  | anyChar _ ih =>
    rw [collapse_cons (by decide)]
    refine forall₂_cut_append ['?'] (by decide) (by simp) (fun _ _ _ cut => ?_)
      (ih (by simpa using unescaped))
    exact .anyChar cut
  | separator more last _ ih =>
    rw [collapse_separators more last]
    exact .cons .done (ih (by simpa using unescaped))
  | ordinary c plain _ ih =>
    obtain ⟨-, -, -, slash⟩ := notMem_special.mp plain
    rw [collapse_cons slash]
    refine forall₂_cut_append [c] (by simpa using Ne.symm slash) (by simp)
      (fun _ _ _ cut => ?_) (ih (by simpa using unescaped))
    exact .ordinary c plain cut

theorem cut_components (unescaped : .escaped '/' ∉ tokens glob) :
    List.Forall₂ Cut (components glob) (splitAtEach .separator (inner glob)) := by
  have cut := cut_tokens (glob.dropWhile (· = '/'))
  rw [tokens_dropWhile] at cut
  rw [components,
    ← dropEnd_eq_rdropWhile cut fun member => unescaped (dropLeading_subset _ member)]
  exact cut_pieces (cut_dropEnd cut) fun member => unescaped (inner_subset glob member)

/-- The globs of the components have the tokens between separators. -/
theorem map_tokens_components (unescaped : .escaped '/' ∉ tokens glob) :
    (components glob).map tokens = splitAtEach .separator (inner glob) := by
  have same : List.Forall₂ (· = ·) ((components glob).map tokens)
      (splitAtEach .separator (inner glob)) :=
    List.forall₂_map_left_iff.mpr ((cut_components unescaped).imp fun _ _ cut => cut.eq_tokens.symm)
  rwa [List.forall₂_eq_eq_eq] at same

/-! ## What is taken -/

/-- Tokens with separators between take what the tokens before, between and behind them take, with a
`/` for each separator. -/
theorem mem_prod_joinWith {uss : List (List Token)} (some_ : uss ≠ []) :
    s ∈ ((joinWith .separator uss).map (Token.language false .other)).prod ↔
      ∃ parts, List.Forall₂ (fun us part => part ∈ (us.map (Token.language false .other)).prod)
        uss parts ∧ joinWith '/' parts = s := by
  induction uss generalizing s with
  | nil => exact absurd rfl some_
  | cons us uss ih =>
    cases uss with
    | nil =>
      constructor
      · exact fun member => ⟨[s], .cons member .nil, rfl⟩
      · rintro ⟨parts, each, rfl⟩
        cases each with
        | cons member rest =>
          cases rest
          exact member
    | cons next more =>
      rw [joinWith, List.map_append, List.prod_append, List.map_cons, List.prod_cons,
        Language.mem_mul]
      · constructor
        · rintro ⟨a, ha, b, hb, rfl⟩
          obtain ⟨c, hc, d, hd, rfl⟩ := Language.mem_mul.mp hb
          obtain ⟨parts, each, rfl⟩ := (ih (by simp)).mp hd
          obtain rfl : c = ['/'] := mem_single.mp hc
          refine ⟨a :: parts, .cons ha each, ?_⟩
          cases each
          rfl
        · rintro ⟨parts, each, rfl⟩
          cases each with
          | @cons _ part _ parts member rest =>
            refine ⟨part, member, '/' :: joinWith '/' parts, ?_, ?_⟩
            · exact Language.append_mem_mul (mem_single.mpr rfl)
                ((ih (by simp)).mpr ⟨parts, rest, rfl⟩)
            · cases rest
              rfl
      · simp

theorem notMem_of_mem_language (level : t.Level) (inside : t ≠ .separator)
    (h : s ∈ t.language false .other) : '/' ∉ s := by
  cases t with
  | ordinary c =>
    obtain rfl : s = [c] := mem_single.mp h
    simpa using Ne.symm level
  | escaped c =>
    obtain rfl : s = [c] := mem_single.mp h
    simpa using Ne.symm level
  | anyChar =>
    obtain ⟨c, other, rfl⟩ := h
    simpa using Ne.symm other
  | anyRun => exact h
  | anyPath => exact level.elim
  | separator => exact absurd rfl inside
  | loneEscape => exact absurd h (Language.notMem_zero s)

/-- Tokens within a component take no `/`. -/
theorem notMem_of_mem_prod (level : ∀ t ∈ us, t.Level) (inside : .separator ∉ us)
    (h : s ∈ (us.map (Token.language false .other)).prod) : '/' ∉ s := by
  induction us generalizing s with
  | nil =>
    obtain rfl : s = [] := h
    simp
  | cons t us ih =>
    obtain ⟨a, ha, b, hb, rfl⟩ := Language.mem_mul.mp h
    obtain ⟨first, rest⟩ := not_or.mp (mt List.mem_cons.mpr inside)
    have front := notMem_of_mem_language (level t (by simp)) (Ne.symm first) ha
    have behind := ih (fun u hu => level u (List.mem_cons_of_mem t hu)) rest hb
    simp [front, behind]

/-- What stands in a second row stands beside something in the first. -/
theorem exists_mem_beside {α β : Type} {r : α → β → Prop} {as : List α} {bs : List β} {b : β}
    (h : List.Forall₂ r as bs) (hb : b ∈ bs) : ∃ a ∈ as, r a b := by
  induction h with
  | nil => cases hb
  | cons first _ ih =>
    rcases List.mem_cons.mp hb with rfl | later
    · exact ⟨_, List.mem_cons_self, first⟩
    · obtain ⟨a, ha, beside⟩ := ih later
      exact ⟨a, List.mem_cons_of_mem _ ha, beside⟩

/-- What tokens take is cut at each `/` as the tokens are at their separators. -/
theorem mem_prod_pieces (level : ∀ t ∈ ts, t.Level) :
    s ∈ (ts.map (Token.language false .other)).prod ↔
      List.Forall₂ (fun us part => part ∈ (us.map (Token.language false .other)).prod)
        (splitAtEach .separator ts) (splitAtEach '/' s) := by
  have some_ := splitAtEach_ne_nil .separator ts
  have whole := mem_prod_joinWith (s := s) some_
  rw [joinWith_splitAtEach] at whole
  rw [whole]
  constructor
  · rintro ⟨parts, each, rfl⟩
    -- No part holds a `/`, so the parts are found again where their text is cut.
    have free : ∀ part ∈ parts, '/' ∉ part := by
      intro part hp
      obtain ⟨us, hu, member⟩ := exists_mem_beside each hp
      obtain ⟨inside, within⟩ := mem_splitAtEach hu
      exact notMem_of_mem_prod (fun t ht => level t (within ht)) inside member
    have parts_some : parts ≠ [] := by
      rintro rfl
      exact some_ (List.forall₂_nil_right_iff.mp each)
    rwa [splitAtEach_joinWith parts_some free]
  · exact fun each => ⟨_, each, joinWith_splitAtEach '/' s⟩

/-- A path is taken if it has a component for each component of the glob, and each is taken. -/
theorem mem_language_components (level : ∀ t ∈ tokens glob, t.Level)
    (unescaped : .escaped '/' ∉ tokens glob) :
    s ∈ language glob ↔ List.Forall₂ (fun part name => name ∈ language part) (components glob)
      (splitAtEach '/' s) := by
  have kept : ∀ t ∈ inner glob, t.Level := fun t ht => level t (inner_subset glob ht)
  have alone : ∀ part ∈ components glob,
      ((tokens part).map (Token.language false .other)).prod = language part := by
    intro part hp
    have piece : tokens part ∈ splitAtEach .separator (inner glob) := by
      rw [← map_tokens_components unescaped]
      exact List.mem_map_of_mem hp
    obtain ⟨inside, within⟩ := mem_splitAtEach piece
    rw [language_eq_prod fun t ht => kept t (within ht), inner_of_notMem inside]
  have by_language (own : List Char → Language Char) :
      List.Forall₂ (fun part name => name ∈ own part) (components glob) (splitAtEach '/' s) ↔
        List.Forall₂ (fun l name => name ∈ l) ((components glob).map own) (splitAtEach '/' s) :=
    List.forall₂_map_left_iff.symm
  rw [language_eq_prod level, mem_prod_pieces kept, ← map_tokens_components unescaped,
    List.forall₂_map_left_iff, by_language, by_language, List.map_congr_left alone]

/-- The globs of the components can be used where the glob can. -/
theorem firstFault_components (single : .anyPath ∉ tokens glob)
    (unescaped : .escaped '/' ∉ tokens glob) (sound : firstFault true (tokens glob) = none) :
    ∀ part ∈ components glob, firstFault true (tokens part) = none := by
  intro part hp
  have piece : tokens part ∈ splitAtEach .separator (inner glob) := by
    rw [← map_tokens_components unescaped]
    exact List.mem_map_of_mem hp
  have within : tokens part ⊆ tokens glob :=
    fun t ht => inner_subset glob ((mem_splitAtEach piece).2 ht)
  have whole : .loneEscape ∉ tokens glob := (firstFault_eq_none_iff single true).mp sound
  exact (firstFault_eq_none_iff (fun path => single (within path)) true).mpr
    fun escape => whole (within escape)

end Glob

namespace Pattern

open Glob

/-- Without a `**` and an escaped `/`, the glob of each component can be used alone, and a path is
taken just if it has as many components and each is taken by the glob in its place. -/
theorem compile_components {glob : String} {p : Pattern} (made : compile glob = .ok p)
    (single : .anyPath ∉ tokens glob.toList) (unescaped : .escaped '/' ∉ tokens glob.toList) :
    (∀ part ∈ components glob.toList, ∃ q, compile (String.ofList part) = .ok q) ∧
      ∀ path : String, p.accepts path = true ↔
        List.Forall₂ (fun part name => ∃ q, compile (String.ofList part) = .ok q ∧
          q.accepts (String.ofList name) = true)
          (components glob.toList) (splitAtEach '/' path.toList) := by
  have sound : firstFault true (tokens glob.toList) = none := exists_compile_eq_ok_iff.mp ⟨p, made⟩
  have usable : ∀ part ∈ components glob.toList, ∃ q, compile (String.ofList part) = .ok q := by
    intro part hp
    rw [exists_compile_eq_ok_iff, String.toList_ofList]
    exact firstFault_components single unescaped sound part hp
  refine ⟨usable, fun path => ?_⟩
  have level := (cut_tokens glob.toList).level single unescaped
  rw [accepts_compiled made, mem_language_components level unescaped]
  constructor
  · intro each
    have both := (List.forall₂_and_left _ _).mpr ⟨usable, each⟩
    refine both.imp fun part name ⟨⟨q, hq⟩, member⟩ => ⟨q, hq, (accepts_compiled hq _).mpr ?_⟩
    rwa [String.toList_ofList, String.toList_ofList]
  · intro each
    refine each.imp fun part name ⟨q, hq, taken⟩ => ?_
    have member := (accepts_compiled hq _).mp taken
    rwa [String.toList_ofList, String.toList_ofList] at member

/-- A glob with separators to spare, and a `*` and a `?` that stay within their components. -/
theorem compile_components_spare :
    components "/src//*.?/".toList = ["src".toList, "*.?".toList] ∧
      ∃ p, compile "/src//*.?/" = .ok p ∧ p.accepts "src/a.c" = true ∧
        p.accepts "src/a/b.c" = false := by
  have cut : components "/src//*.?/".toList = ["src".toList, "*.?".toList] := by decide
  have made : compile "/src//*.?/" = .ok ⟨"/src//*.?/", "src/[^/]*\\.[^/]", [⟨.exactly 's', .one⟩,
      ⟨.exactly 'r', .one⟩, ⟨.exactly 'c', .one⟩, ⟨.exactly '/', .one⟩, ⟨.notSlash, .many⟩,
      ⟨.exactly '.', .one⟩, ⟨.notSlash, .one⟩]⟩ := by cbv
  have first : compile "src" = .ok ⟨"src", "src", [⟨.exactly 's', .one⟩,
      ⟨.exactly 'r', .one⟩, ⟨.exactly 'c', .one⟩]⟩ := by cbv
  have second : compile "*.?" = .ok ⟨"*.?", "[^/]*\\.[^/]", [⟨.notSlash, .many⟩,
      ⟨.exactly '.', .one⟩, ⟨.notSlash, .one⟩]⟩ := by cbv
  obtain ⟨-, accepts⟩ := compile_components made (by decide) (by decide)
  rw [cut] at accepts
  refine ⟨cut, _, made, (accepts _).mpr ?_, ?_⟩
  · exact .cons ⟨_, first, by cbv⟩ (.cons ⟨_, second, by cbv⟩ .nil)
  · -- three components are too many
    rw [← Bool.not_eq_true, accepts]
    intro each
    exact absurd each.length_eq (by decide)

end Pattern

end TabAudit
