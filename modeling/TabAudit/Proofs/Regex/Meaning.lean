import Mathlib.Computability.Language
import TabAudit.Regex.Text

/-!
# What a pattern takes

`Regex.accepts` keeps one answer for every suffix of the path. This module shows that the answers
are those of `Regex.Lang`, gives the language of a pattern as the product of the languages of its
pieces, and says what reading a class and its count off a text comes to.
-/

namespace TabAudit

/-! ## The language of a piece in front -/

namespace Piece

theorem lang_nil (p : Piece) : p.Lang [] ↔ p.count ≠ .one := by
  rcases p with ⟨k, count⟩
  cases count <;> simp [Lang]

theorem lang_cons (p : Piece) (c : Char) (s : List Char) :
    p.Lang (c :: s) ↔ p.chars.holds c = true ∧ if p.count = .many then p.Lang s else s = [] := by
  rcases p with ⟨k, count⟩
  cases count <;> simp [Lang]

/-- The strings of a piece, as a language. -/
def language (p : Piece) : Language Char := {s | p.Lang s}

theorem mem_language {p : Piece} {s : List Char} : s ∈ p.language ↔ p.Lang s := Iff.rfl

end Piece

namespace Regex

theorem lang_cons_nil (p : Piece) (r : Regex) :
    Lang (p :: r) [] ↔ p.count ≠ .one ∧ Lang r [] := by
  constructor
  · rintro ⟨a, b, h, ha, hb⟩
    obtain ⟨rfl, rfl⟩ := List.append_eq_nil_iff.mp h.symm
    exact ⟨p.lang_nil.mp ha, hb⟩
  · rintro ⟨hp, hr⟩
    exact ⟨[], [], rfl, p.lang_nil.mpr hp, hr⟩

/-- A piece in front either takes nothing, or takes the next character. -/
theorem lang_cons_cons (p : Piece) (r : Regex) (c : Char) (s : List Char) :
    Lang (p :: r) (c :: s) ↔
      (p.count ≠ .one ∧ Lang r (c :: s)) ∨
      (p.chars.holds c = true ∧ if p.count = .many then Lang (p :: r) s else Lang r s) := by
  constructor
  · rintro ⟨a, b, h, ha, hb⟩
    cases a with
    | nil => exact .inl ⟨p.lang_nil.mp ha, by rw [h]; exact hb⟩
    | cons d a =>
      obtain ⟨rfl, rfl⟩ := List.cons.inj h
      obtain ⟨hc, hrest⟩ := (p.lang_cons _ _).mp ha
      refine .inr ⟨hc, ?_⟩
      split at hrest
      · rename_i many
        rw [if_pos many]
        exact ⟨a, b, rfl, hrest, hb⟩
      · rename_i few
        rw [if_neg few, hrest]
        exact hb
  · rintro (⟨hp, hr⟩ | ⟨hc, hrest⟩)
    · exact ⟨[], c :: s, rfl, p.lang_nil.mpr hp, hr⟩
    · split at hrest
      · rename_i many
        obtain ⟨a, b, rfl, ha, hb⟩ := hrest
        exact ⟨c :: a, b, rfl, (p.lang_cons _ _).mpr ⟨hc, by rwa [if_pos many]⟩, hb⟩
      · rename_i few
        exact ⟨[c], s, rfl, (p.lang_cons _ _).mpr ⟨hc, by rw [if_neg few]⟩, hrest⟩

/-- The language of a pattern is the product of the languages of its pieces. -/
theorem lang_iff_mem_prod (r : Regex) (s : List Char) :
    Lang r s ↔ s ∈ (r.map Piece.language).prod := by
  induction r generalizing s with
  | nil => exact (Language.mem_one s).symm
  | cons p r ih =>
    rw [List.map_cons, List.prod_cons, Language.mem_mul]
    constructor
    · rintro ⟨a, b, rfl, ha, hb⟩
      exact ⟨a, ha, b, (ih b).mp hb, rfl⟩
    · rintro ⟨a, ha, b, hb, rfl⟩
      exact ⟨a, b, rfl, ha, (ih b).mpr hb⟩

/-! ## The decision -/

/-- Answers for the suffixes of a path, the longest first, that tell what a pattern takes. -/
def Tells (r : Regex) (answers : List Bool) (s : List Char) : Prop :=
  List.Forall₂ (fun answer t => answer = true ↔ Lang r t) answers s.tails

theorem Tells.head {r : Regex} {answers : List Bool} {s : List Char} (h : Tells r answers s) :
    answers.headD false = true ↔ Lang r s := by
  cases s <;> cases h <;> assumption

theorem Tells.tail {r : Regex} {answers : List Bool} {c : Char} {s : List Char}
    (h : Tells r answers (c :: s)) : Tells r answers.tail s := by
  cases h
  assumption

/-- One more piece in front keeps the answers right. -/
theorem Tells.extend {r : Regex} (p : Piece) {s : List Char} {answers : List Bool}
    (h : Tells r answers s) : Tells (p :: r) (extend p s answers) s := by
  induction s generalizing answers with
  | nil =>
    refine .cons ?_ .nil
    rw [Bool.and_eq_true, h.head, lang_cons_nil, bne_iff_ne]
  | cons c s ih =>
    have later := ih h.tail
    refine .cons ?_ later
    rw [lang_cons_cons, Bool.or_eq_true, Bool.and_eq_true, Bool.and_eq_true, h.head, bne_iff_ne]
    split
    · rw [later.head]
    · rw [h.tail.head]

theorem tells_table (r : Regex) (s : List Char) : Tells r (table r s) s := by
  induction r with
  | nil =>
    induction s with
    | nil => exact .cons (by simp [Lang]) .nil
    | cons c s ih => exact .cons (by simp [Lang]) ih
  | cons p r ih => exact ih.extend p

/-- The decision is right: a pattern accepts just the paths of its language. -/
theorem accepts_iff_lang (r : Regex) (s : List Char) : r.accepts s = true ↔ Lang r s :=
  (tells_table r s).head

/-! ## Reading a text -/

theorem read_nil : read [] = some [] := by
  rw [read]

/-- Once its first class is known, a text reads as that class with its count and the rest. -/
theorem read_of_readClass {s rest : List Char} {k : CharClass}
    (h : readClass s = some (k, rest)) :
    read s = (read (readCount rest).2).map (⟨k, (readCount rest).1⟩ :: ·) := by
  cases s with
  | nil => simp [readClass] at h
  | cons c cs =>
    rw [read]
    split
    · simp_all
    · simp_all

theorem readClass_plain {c : Char} (hc : c ∉ meaningful) (rest : List Char) :
    readClass (c :: rest) = some (.exactly c, rest) := by
  unfold readClass
  split <;> simp_all [meaningful]

theorem readClass_quoted {c : Char} (hc : c.isAlphanum = false) (rest : List Char) :
    readClass ('\\' :: c :: rest) = some (.exactly c, rest) := by
  simp [readClass, hc]

theorem readCount_one {rest : List Char} (many : rest.head? ≠ some '*')
    (optional : rest.head? ≠ some '?') : readCount rest = (.one, rest) := by
  unfold readCount
  split <;> simp_all

end Regex

end TabAudit
