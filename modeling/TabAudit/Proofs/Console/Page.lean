import Mathlib
import TabAudit.Console.Page
import TabAudit.Proofs.Text.Pieces

/-!
# What fits the page

A text without characters that the page changes, and with lines that are not too long for it, is
printed as it is, with the end of its line.
-/

namespace TabAudit.Console

/-! ## Cells of texts in a row -/

namespace Gauge

theorem step_le (g : Gauge) (c : Char) : (g.step c).1 ≤ 2 := by
  have alone : cellsOf c ≤ 2 := by
    unfold cellsOf
    split_ifs <;> decide
  unfold step
  split
  · exact Nat.zero_le 2
  split
  · exact Nat.zero_le 2
  split
  · dsimp only
    split <;> decide
  split
  · exact Nat.zero_le 2
  · exact alone

/-- No character takes up more than two cells. -/
theorem cells_le (g : Gauge) (s : List Char) : g.cells s ≤ 2 * s.length := by
  induction s generalizing g with
  | nil => exact Nat.zero_le _
  | cons c s ih =>
    have first := g.step_le c
    have rest := ih (g.step c).2
    rw [cells, List.length_cons]
    omega

/-- What stands in front of a character behind a text. -/
def after (g : Gauge) (s : List Char) : Gauge := s.foldl (fun g c => (g.step c).2) g

theorem cells_append (g : Gauge) (s t : List Char) :
    g.cells (s ++ t) = g.cells s + (g.after s).cells t := by
  induction s generalizing g with
  | nil => simp [cells, after]
  | cons c s ih =>
    rw [List.cons_append, cells, cells, ih, Nat.add_assoc]
    rfl

/-- Whether one thing in front of a character makes it no wider than another. -/
def Within (g h : Gauge) : Prop := g.joined = h.joined ∧ (g.last = h.last ∨ g.last = none)

theorem Within.step {g h : Gauge} (within : g.Within h) (c : Char) :
    (g.step c).1 ≤ (h.step c).1 ∧ (g.step c).2.Within (h.step c).2 := by
  obtain ⟨joined, last⟩ := g
  obtain ⟨_, last'⟩ := h
  obtain ⟨rfl, same | none⟩ := within
  · obtain rfl : last = last' := same
    exact ⟨Nat.le_refl _, rfl, .inl rfl⟩
  · obtain rfl : last = .none := none
    unfold Gauge.step
    cases joined with
    | true => exact ⟨Nat.le_refl _, rfl, .inr rfl⟩
    | false =>
      simp only [Bool.false_eq_true, if_false]
      split
      · exact ⟨Nat.le_refl _, rfl, .inr rfl⟩
      split
      · exact ⟨by simp, rfl, .inl rfl⟩
      split
      · exact ⟨Nat.le_refl _, rfl, .inr rfl⟩
      · exact ⟨Nat.le_refl _, rfl, .inl rfl⟩

theorem Within.cells_le {g h : Gauge} (within : g.Within h) (s : List Char) :
    g.cells s ≤ h.cells s := by
  induction s generalizing g h with
  | nil => exact Nat.le_refl _
  | cons c s ih =>
    obtain ⟨le, next⟩ := within.step c
    exact Nat.add_le_add le (ih next)

/-- A blank is not hidden from what stands behind it. -/
theorem joined_step {g : Gauge} {c : Char} (blank : isBlank c = true) :
    (g.step c).2.joined = false := by
  have no_joiner : c ≠ '\u200D' := by
    rintro rfl
    exact absurd blank (by decide)
  unfold Gauge.step
  cases joined : g.joined with
  | true => simp
  | false =>
    simp only [Bool.false_eq_true, if_false, if_neg no_joiner]
    split
    · rfl
    split
    · exact joined
    · rfl

end Gauge

/-- Texts in a row take up no fewer cells than each by itself, if there is a blank between them. -/
theorem cells_add_le (s t : List Char) {c : Char} (blank : isBlank c = true) :
    cells (s ++ [c]) + cells t ≤ cells (s ++ [c] ++ t) := by
  have within : Gauge.start.Within (Gauge.start.after (s ++ [c])) := by
    rw [Gauge.after, List.foldl_append]
    exact ⟨(Gauge.joined_step blank).symm, .inr rfl⟩
  unfold cells
  rw [Gauge.start.cells_append (s ++ [c]) t]
  exact Nat.add_le_add_left (within.cells_le t) _

/-! ## A line that fits -/

theorem cells_dropWhileEnd_le (s : List Char) : cells (dropWhileEnd isBlank s) ≤ cells s := by
  have whole : s = dropWhileEnd isBlank s ++ (s.reverse.takeWhile isBlank).reverse := by
    rw [dropWhileEnd, ← List.reverse_append, List.takeWhile_append_dropWhile, List.reverse_reverse]
  conv_rhs => rw [whole]
  rw [cells, cells, Gauge.cells_append]
  exact Nat.le_add_right _ _

theorem add_fits {width used : Nat} {word : List Char} (line : List Char)
    (fits : used + cells word ≤ width) :
    Filling.add width ⟨[], line, used⟩ word = ⟨[], line ++ word, used + cells word⟩ := by
  have := cells_dropWhileEnd_le word
  rw [Filling.add]
  exact if_pos (by dsimp only; omega)

/-- Words that fit go into the line under way. -/
theorem foldl_add_wordsFrom {width : Nat} (word : List Char) (begun : Bool) (s line : List Char)
    (used : Nat) (fits : used + cells (word.reverse ++ s) ≤ width) :
    ∃ used', (wordsFrom word begun s).foldl (Filling.add width) ⟨[], line, used⟩ =
      ⟨[], line ++ (word.reverse ++ s), used'⟩ := by
  induction s generalizing word begun line used with
  | nil =>
    rw [List.append_nil] at fits ⊢
    exact ⟨_, by rw [wordsFrom, List.foldl_cons, add_fits line fits, List.foldl_nil]⟩
  | cons c rest ih =>
    rw [wordsFrom]
    split
    · rename_i ended
      simp only [Bool.and_eq_true] at ended
      cases word with
      | nil => simp at ended
      | cons d word =>
        have blank : isBlank d = true := by simpa using ended.1.2
        -- The blank hides nothing of the next word, so the cells of both add up.
        have sum := cells_add_le word.reverse (c :: rest) blank
        rw [List.reverse_cons] at fits ⊢
        obtain ⟨used', filled⟩ := ih [c] true (line ++ (word.reverse ++ [d]))
          (used + cells (word.reverse ++ [d])) (by
            rw [List.reverse_singleton, List.singleton_append]
            omega)
        exact ⟨used', by rw [List.foldl_cons, add_fits line (by omega), filled]; simp⟩
    · obtain ⟨used', filled⟩ := ih (c :: word) (begun || !isBlank c) line used (by simpa using fits)
      exact ⟨used', by simpa using filled⟩

theorem crop_eq_self (g : Gauge) {room : Nat} {s : List Char} (fits : g.cells s ≤ room) :
    crop g room s = s := by
  induction s generalizing g room with
  | nil => rfl
  | cons c rest ih =>
    have sum : (g.step c).1 + (g.step c).2.cells rest ≤ room := fits
    rw [crop]
    simp only
    rw [if_pos (by omega), ih _ (by omega)]

theorem trimEnd_eq_self {width : Nat} {s : List Char} (length : s.length ≤ width)
    (fits : cells s ≤ width) : trimEnd width s = s := by
  have none : s.length - width = 0 := by omega
  simp only [trimEnd, none, Nat.min_zero, Nat.sub_zero, List.take_length]
  exact crop_eq_self _ fits

theorem wrap_eq_self {width : Nat} {s : List Char} (length : s.length ≤ width)
    (fits : cells s ≤ width) : wrap width s = [s] := by
  obtain ⟨used, filled⟩ := foldl_add_wordsFrom [] false s [] 0 (by simpa using fits)
  simp only [wrap, words, filled, Filling.lines]
  simp [trimEnd_eq_self length fits]

theorem expandTabs_eq_self {line : List Char} (free : '\t' ∉ line) : expandTabs line = line := by
  rw [expandTabs, splitAtEach_of_notMem free, expandFrom]

theorem not_isDropped {c : Char} (h : ' ' ≤ c ∨ c = '\n') : isDropped c = false ∧ c ≠ '\t' := by
  constructor
  · rw [isDropped, List.contains_eq_mem, decide_eq_false_iff_not]
    intro member
    simp only [List.mem_cons, List.not_mem_nil, or_false] at member
    rcases member with rfl | rfl | rfl | rfl | rfl <;> exact absurd h (by decide)
  · rintro rfl
    exact absurd h (by decide)

/-- A text without control characters, and with lines that are not too long, is printed as it is. -/
theorem page_eq {width : Nat} {s : List Char} (chars : ∀ c ∈ s, ' ' ≤ c ∨ c = '\n')
    (lines : ∀ line ∈ splitAtEach '\n' s, line.length ≤ width ∧ cells line ≤ width) :
    page width s = s ++ ['\n'] := by
  have kept : s.filter (!isDropped ·) = s :=
    List.filter_eq_self.mpr fun c member => by simp [(not_isDropped (chars c member)).1]
  have line (line : List Char) (member : line ∈ splitAtEach '\n' s) :
      shownLines width line = [line] := by
    have free : '\t' ∉ line := fun tab =>
      (not_isDropped (chars _ ((mem_splitAtEach member).2 tab))).2 rfl
    obtain ⟨length, cells⟩ := lines line member
    rw [shownLines, expandTabs_eq_self free, wrap_eq_self length cells]
  rw [page, kept, List.flatMap_congr line]
  simp [joinWith_splitAtEach]

end TabAudit.Console
