import Mathlib.Computability.Language
import Mathlib.Data.List.DropRight
import TabAudit.Glob.Pattern

/-!
# What a glob stands for

The language of a glob, said without its translation: the glob is cut into tokens, each token has a
language that depends on what stands before it, and the languages are joined, but for the
separators in front and at the end.
-/

namespace TabAudit.Glob

/-! ## Cutting a glob into tokens -/

/-- The characters that do not stand for themselves in a glob. -/
def special : List Char := ['\\', '*', '?', '/']

/-- `Cut glob ts`: the tokens of a glob, cut left to right. -/
inductive Cut : List Char → List Token → Prop where
  | done : Cut [] []
  | loneEscape : Cut ['\\'] [.loneEscape]
  | escaped (c : Char) {rest : List Char} {ts : List Token} :
      Cut rest ts → Cut ('\\' :: c :: rest) (.escaped c :: ts)
  | anyPath {rest : List Char} {ts : List Token} :
      Cut rest ts → Cut ('*' :: '*' :: rest) (.anyPath :: ts)
  | anyRun {rest : List Char} {ts : List Token} :
      rest.head? ≠ some '*' → Cut rest ts → Cut ('*' :: rest) (.anyRun :: ts)
  | anyChar {rest : List Char} {ts : List Token} :
      Cut rest ts → Cut ('?' :: rest) (.anyChar :: ts)
  /-- A run of separators is as long as can be. -/
  | separator (more : Nat) {rest : List Char} {ts : List Token} :
      rest.head? ≠ some '/' → Cut rest ts →
      Cut ('/' :: (List.replicate more '/' ++ rest)) (.separator :: ts)
  | ordinary (c : Char) {rest : List Char} {ts : List Token} :
      c ∉ special → Cut rest ts → Cut (c :: rest) (.ordinary c :: ts)

theorem notMem_special {c : Char} : c ∉ special ↔ c ≠ '\\' ∧ c ≠ '*' ∧ c ≠ '?' ∧ c ≠ '/' := by
  simp [special]

theorem tokens_separators (more : Nat) {rest : List Char} (h : rest.head? ≠ some '/') :
    tokens ('/' :: (List.replicate more '/' ++ rest)) = .separator :: tokens rest := by
  induction more with
  | zero =>
    cases rest with
    | nil => rfl
    | cons c rest => rw [List.replicate_zero, List.nil_append, tokens]; simpa using h
  | succ more ih => rw [List.replicate_succ, List.cons_append, tokens, ih]

theorem tokens_anyRun {rest : List Char} (h : rest.head? ≠ some '*') :
    tokens ('*' :: rest) = .anyRun :: tokens rest := by
  cases rest with
  | nil => rfl
  | cons c rest => rw [tokens]; simpa using h

theorem tokens_ordinary {c : Char} (h : c ∉ special) (rest : List Char) :
    tokens (c :: rest) = .ordinary c :: tokens rest := by
  obtain ⟨escape, star, question, slash⟩ := notMem_special.mp h
  rw [tokens] <;> simp_all

/-- A glob is cut in one way only. -/
theorem Cut.eq_tokens {glob : List Char} {ts : List Token} (h : Cut glob ts) :
    ts = tokens glob := by
  induction h with
  | done => rfl
  | loneEscape => rfl
  | escaped c _ ih => rw [tokens, ← ih]
  | anyPath _ ih => rw [tokens, ← ih]
  | anyRun single _ ih => rw [tokens_anyRun single, ← ih]
  | anyChar _ ih => rw [tokens, ← ih]
  | separator more last _ ih => rw [tokens_separators more last, ← ih]
  | ordinary c plain _ ih => rw [tokens_ordinary plain, ← ih]

theorem Cut.eq_nil_iff {glob : List Char} {ts : List Token} (h : Cut glob ts) :
    glob = [] ↔ ts = [] := by
  cases h <;> simp

/-- A run of separators, and what follows it. -/
theorem separators_split (s : List Char) :
    ∃ more rest, s = List.replicate more '/' ++ rest ∧ rest.head? ≠ some '/' ∧
      rest.length ≤ s.length := by
  induction s with
  | nil => exact ⟨0, [], rfl, by simp, le_refl _⟩
  | cons c s ih =>
    by_cases hc : c = '/'
    · obtain ⟨more, rest, rfl, last, shorter⟩ := ih
      exact ⟨more + 1, rest, by rw [hc, List.replicate_succ, List.cons_append], last,
        Nat.le_succ_of_le shorter⟩
    · exact ⟨0, c :: s, rfl, by simpa using hc, le_refl _⟩

/-- Without a separator in front there is no first token to drop. -/
theorem Cut.dropLeading {glob : List Char} {ts : List Token} (h : Cut glob ts)
    (first : glob.head? ≠ some '/') : dropLeading ts = ts := by
  cases h <;> first | rfl | exact absurd rfl first

/-- Every glob can be cut. -/
theorem cut_tokens (glob : List Char) : Cut glob (tokens glob) := by
  induction h : glob.length using Nat.strong_induction_on generalizing glob with
  | _ n ih =>
    subst h
    have cut (rest : List Char) (shorter : rest.length < glob.length) : Cut rest (tokens rest) :=
      ih _ shorter rest rfl
    rcases glob with _ | ⟨c, rest⟩
    · exact .done
    by_cases escape : c = '\\'
    · subst escape
      rcases rest with _ | ⟨d, rest⟩
      · exact .loneEscape
      · rw [tokens]
        exact .escaped d (cut rest (by simp only [List.length_cons]; omega))
    by_cases star : c = '*'
    · subst star
      by_cases again : rest.head? = some '*'
      · obtain ⟨rest, rfl⟩ : ∃ tail, rest = '*' :: tail := by
          cases rest <;> simp_all
        rw [tokens]
        exact .anyPath (cut rest (by simp only [List.length_cons]; omega))
      · rw [tokens_anyRun again]
        exact .anyRun again (cut rest (by simp))
    by_cases question : c = '?'
    · subst question
      rw [tokens]
      exact .anyChar (cut rest (by simp))
    by_cases slash : c = '/'
    · subst slash
      obtain ⟨more, rest, rfl, last, shorter⟩ := separators_split rest
      rw [tokens_separators more last]
      exact .separator more last (cut rest (Nat.lt_succ_of_le shorter))
    · have plain : c ∉ special := notMem_special.mpr ⟨escape, star, question, slash⟩
      rw [tokens_ordinary plain]
      exact .ordinary c plain (cut rest (by simp))

/-! ## The language of a token -/

theorem mem_single {a s : List Char} : s ∈ ({a} : Language Char) ↔ s = a := Iff.rfl

theorem mem_pair {a b s : List Char} : s ∈ ({a, b} : Language Char) ↔ s = a ∨ s = b := Iff.rfl

theorem mem_top (s : List Char) : s ∈ (⊤ : Language Char) := trivial

/-- What stands directly before a token, as far as it matters. -/
inductive Before where
  | other
  /-- A `**`. -/
  | path
  /-- A `**` and its separators. -/
  | pathSlash
  deriving DecidableEq, Repr

/-- What stands before the next token. -/
def Token.after (before : Before) : Token → Before
  | .anyPath => .path
  | .separator => if before = .path then .pathSlash else .other
  | _ => .other

/-- Whether a token is a separator that no `**` has in its reach. -/
def Token.divides (before : Before) : Token → Bool
  | .separator => before ≠ .path
  | _ => false

/-- The strings of a token. `seen` tells whether a separator stood earlier, other than directly
behind a `**`. -/
def Token.language (seen : Bool) (before : Before) : Token → Language Char
  | .ordinary c => {[c]}
  | .escaped c => {[c]}
  | .anyChar => {s | ∃ c, c ≠ '/' ∧ s = [c]}
  | .anyRun => {s | '/' ∉ s}
  | .anyPath => if before = .pathSlash then {[]} else ⊤
  | .separator => if before = .path then (if seen then {[], ['/']} else {[]}) else {['/']}
  | .loneEscape => 0

/-- The languages of the tokens of a glob, one by one. -/
def languages (seen : Bool) (before : Before) : List Token → List (Language Char)
  | [] => []
  | t :: ts =>
    t.language seen before :: languages (seen || t.divides before) (t.after before) ts

/-- The language of a separator. -/
def slash : Language Char := {['/']}

open Classical in
/-- The languages without the separators at the end. -/
noncomputable def trimmed (ls : List (Language Char)) : List (Language Char) :=
  ls.rdropWhile (· = slash)

/-- What is dropped at the end is dropped from the last part first. -/
theorem rdropWhile_append {α : Type} (q : α → Bool) (xs ys : List α) :
    (xs ++ ys).rdropWhile q =
      if ys.rdropWhile q = [] then xs.rdropWhile q else xs ++ ys.rdropWhile q := by
  rw [List.rdropWhile, List.reverse_append, List.dropWhile_append, List.rdropWhile, List.rdropWhile]
  by_cases none : ys.reverse.dropWhile q = []
  · simp [none]
  · simp [none]

/-- From the left, what is dropped at the end is dropped once nothing is left behind it. -/
theorem rdropWhile_cons {α : Type} (q : α → Bool) (x : α) (xs : List α) :
    (x :: xs).rdropWhile q =
      if xs.rdropWhile q = [] ∧ q x = true then [] else x :: xs.rdropWhile q := by
  rw [← List.singleton_append, rdropWhile_append, List.rdropWhile_singleton]
  by_cases none : xs.rdropWhile q = []
  · cases q x <;> simp [none]
  · simp [none]

open Classical in
theorem trimmed_cons (l : Language Char) (ls : List (Language Char)) :
    trimmed (l :: ls) = if trimmed ls = [] ∧ l = slash then [] else l :: trimmed ls := by
  rw [trimmed, rdropWhile_cons, ← trimmed]
  simp only [decide_eq_true_eq]

theorem trimmed_cons_of_ne {l : Language Char} (h : l ≠ slash) (ls : List (Language Char)) :
    trimmed (l :: ls) = l :: trimmed ls := by
  classical
  rw [trimmed_cons, if_neg fun dropped => h dropped.2]

theorem single_eq_slash (c : Char) : ({[c]} : Language Char) = slash ↔ c = '/' := by
  constructor
  · intro h
    have : [c] ∈ slash := h ▸ mem_single.mpr rfl
    exact List.singleton_inj.mp (mem_single.mp this)
  · rintro rfl
    rfl

theorem ne_slash_of_nil_mem {l : Language Char} (h : [] ∈ l) : l ≠ slash := by
  rintro rfl
  exact absurd (mem_single.mp h) (by simp)

/-- The paths that a glob stands for. -/
def language (glob : List Char) : Language Char :=
  {s | ∃ ts, Cut (glob.dropWhile (· = '/')) ts ∧ s ∈ (trimmed (languages false .other ts)).prod}

theorem mem_language {glob s : List Char} :
    s ∈ language glob ↔
      s ∈ (trimmed (languages false .other (tokens (glob.dropWhile (· = '/'))))).prod := by
  constructor
  · rintro ⟨ts, cut, hs⟩
    rwa [← cut.eq_tokens]
  · exact fun hs => ⟨_, cut_tokens _, hs⟩

theorem dropWhile_separators (more : Nat) {rest : List Char} (last : rest.head? ≠ some '/') :
    (List.replicate more '/' ++ rest).dropWhile (· = '/') = rest := by
  have stays : rest.dropWhile (· = '/') = rest := by
    cases rest <;> simp_all
  rw [List.dropWhile_append_of_pos (by simp), stays]

/-- Dropping the separators in front of a glob drops the first token. -/
theorem tokens_dropWhile (glob : List Char) :
    tokens (glob.dropWhile (· = '/')) = dropLeading (tokens glob) := by
  obtain ⟨more, rest, rfl, last, -⟩ := separators_split glob
  rw [dropWhile_separators more last]
  cases more with
  | zero =>
    rw [List.replicate_zero, List.nil_append]
    exact ((cut_tokens rest).dropLeading last).symm
  | succ more => rw [List.replicate_succ, List.cons_append, tokens_separators more last]; rfl

/-- The language of a glob, token by token. -/
theorem language_eq (glob : List Char) :
    language glob = (trimmed (languages false .other (dropLeading (tokens glob)))).prod := by
  ext s
  rw [mem_language, tokens_dropWhile]

end TabAudit.Glob
