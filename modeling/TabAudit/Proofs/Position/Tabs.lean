import TabAudit.Position.Tracker

/-!
# The tabs of a text

`tabsOf` says where the tabs of a whole text stand, line by line. The tracker is first shown to go
through a piece one character at a time; then pieces in a row are the same as one piece, and the
tabs of a first piece are those of the text.
-/

namespace TabAudit

/-! ## The reference -/

/-- The lines of a text. Each of `\r\n`, a lone `\r` and a lone `\n` ends one. -/
def textLines : List Char → List (List Char)
  | [] => [[]]
  | '\r' :: '\n' :: rest => [] :: textLines rest
  | '\r' :: rest => [] :: textLines rest
  | '\n' :: rest => [] :: textLines rest
  | c :: rest =>
    match textLines rest with
    | [] => [[c]]
    | line :: lines => (c :: line) :: lines

/-- The tabs of the rest of a line, whose first character has a column. -/
def lineTabs (line column : Nat) : List Char → List Position
  | [] => []
  | c :: rest => (if c = '\t' then [⟨line, column⟩] else []) ++ lineTabs line (column + 1) rest

/-- The tabs of lines, the first of which has a number and may start at a later column. -/
def linesTabs (line column : Nat) : List (List Char) → List Position
  | [] => []
  | chars :: rest => lineTabs line column chars ++ linesTabs (line + 1) 1 rest

/-- The tabs of a text, in order. -/
def tabsOf (text : List Char) : List Position := linesTabs 1 1 (textLines text)

theorem textLines_ne_nil (text : List Char) : textLines text ≠ [] := by
  fun_cases textLines text <;> simp

/-! ## Their order -/

/-- Whether a place comes before another: on an earlier line, or further to the left on its own. -/
def Position.Before (a b : Position) : Prop :=
  a.line < b.line ∨ a.line = b.line ∧ a.column < b.column

theorem mem_lineTabs {line column : Nat} {chars : List Char} {p : Position}
    (h : p ∈ lineTabs line column chars) : p.line = line ∧ column ≤ p.column := by
  induction chars generalizing column with
  | nil => cases h
  | cons c rest ih =>
    rcases List.mem_append.mp h with here | later
    · split at here
      · obtain rfl := List.mem_singleton.mp here
        exact ⟨rfl, Nat.le_refl column⟩
      · cases here
    · obtain ⟨same, behind⟩ := ih later
      exact ⟨same, Nat.le_of_succ_le behind⟩

theorem pairwise_lineTabs (line column : Nat) (chars : List Char) :
    (lineTabs line column chars).Pairwise Position.Before := by
  induction chars generalizing column with
  | nil => exact .nil
  | cons c rest ih =>
    refine List.pairwise_append.mpr ⟨?_, ih (column + 1), fun p here q later => ?_⟩
    · split
      · exact List.pairwise_singleton _ _
      · exact .nil
    · obtain ⟨same, behind⟩ := mem_lineTabs later
      split at here
      · obtain rfl := List.mem_singleton.mp here
        exact .inr ⟨same.symm, behind⟩
      · cases here

theorem le_line_of_mem_linesTabs {line column : Nat} {lines : List (List Char)} {p : Position}
    (h : p ∈ linesTabs line column lines) : line ≤ p.line := by
  induction lines generalizing line column with
  | nil => cases h
  | cons chars rest ih =>
    rcases List.mem_append.mp h with here | later
    · exact Nat.le_of_eq (mem_lineTabs here).1.symm
    · exact Nat.le_of_succ_le (ih later)

theorem pairwise_linesTabs (line column : Nat) (lines : List (List Char)) :
    (linesTabs line column lines).Pairwise Position.Before := by
  induction lines generalizing line column with
  | nil => exact .nil
  | cons chars rest ih =>
    refine List.pairwise_append.mpr
      ⟨pairwise_lineTabs line column chars, ih (line + 1) 1, fun p here q later => .inl ?_⟩
    rw [(mem_lineTabs here).1]
    exact le_line_of_mem_linesTabs later

/-- The tabs of a text come line by line, and on each line from left to right. -/
theorem pairwise_tabsOf (text : List Char) : (tabsOf text).Pairwise Position.Before :=
  pairwise_linesTabs 1 1 (textLines text)

namespace Tracker

/-! ## One character at a time -/

/-- The tab that a further character is, and the place after it. -/
def next (t : Tracker) (c : Char) : List Position × Tracker :=
  if c = '\t' then ([⟨t.line, t.column⟩], ⟨t.line, t.column + 1, false⟩)
  else if c = '\r' then ([], ⟨t.line + 1, 1, true⟩)
  else if c = '\n' then ([], ⟨if t.afterReturn then t.line else t.line + 1, 1, false⟩)
  else ([], ⟨t.line, t.column + 1, false⟩)

/-- The tabs of further characters, and the place after them. -/
def walk (t : Tracker) : List Char → List Position × Tracker
  | [] => ([], t)
  | c :: rest => ((t.next c).1 ++ ((t.next c).2.walk rest).1, ((t.next c).2.walk rest).2)

theorem walk_append (t : Tracker) (a b : List Char) :
    t.walk (a ++ b) = ((t.walk a).1 ++ ((t.walk a).2.walk b).1, ((t.walk a).2.walk b).2) := by
  induction a generalizing t with
  | nil => rfl
  | cons c a ih => simp only [List.cons_append, walk, ih, List.append_assoc]

theorem next_afterReturn (t : Tracker) (c : Char) : (t.next c).2.afterReturn = (c == '\r') := by
  unfold next
  split
  · simp_all
  · split
    · simp_all
    · split <;> simp_all

theorem walk_afterReturn (t : Tracker) (text : List Char) :
    (t.walk text).2.afterReturn =
      if text.isEmpty then t.afterReturn else text.getLast? == some '\r' := by
  induction text generalizing t with
  | nil => rfl
  | cons c rest ih =>
    rw [walk, ih]
    cases rest with
    | nil => simp [next_afterReturn]
    | cons d rest => simp

theorem walk_tab (line column : Nat) (after : Bool) (rest : List Char) :
    walk ⟨line, column, after⟩ ('\t' :: rest) =
      (⟨line, column⟩ :: (walk ⟨line, column + 1, false⟩ rest).1,
        (walk ⟨line, column + 1, false⟩ rest).2) := rfl

theorem walk_return (line column : Nat) (after : Bool) (rest : List Char) :
    walk ⟨line, column, after⟩ ('\r' :: rest) = walk ⟨line + 1, 1, true⟩ rest := rfl

theorem walk_newline (line column : Nat) (after : Bool) (rest : List Char) :
    walk ⟨line, column, after⟩ ('\n' :: rest) =
      walk ⟨if after then line else line + 1, 1, false⟩ rest := rfl

theorem walk_other {c : Char} (ht : c ≠ '\t') (hr : c ≠ '\r') (hn : c ≠ '\n')
    (line column : Nat) (after : Bool) (rest : List Char) :
    walk ⟨line, column, after⟩ (c :: rest) = walk ⟨line, column + 1, false⟩ rest := by
  simp [walk, next, ht, hr, hn]

/-- A sweep goes through a piece as one goes through its characters. Only the first character of
the piece can be a `\n` that ends no line of its own. -/
theorem sweep_eq_walk (joined : Bool) (line offset anchor base : Nat) (text : List Char)
    (after : Bool) (behind : anchor ≤ offset)
    (stands : after = (joined && offset == 0) ∨ text.head? ≠ some '\n') :
    sweep joined line offset anchor base text =
      ((walk ⟨line, base + offset - anchor, after⟩ text).1,
        (walk ⟨line, base + offset - anchor, after⟩ text).2.line,
        (walk ⟨line, base + offset - anchor, after⟩ text).2.column) := by
  have back (n : Nat) : 1 + n - n = 1 := Nat.add_sub_cancel 1 n
  fun_induction sweep joined line offset anchor base text generalizing after with
  | case1 line offset anchor base => rfl
  | case2 line offset anchor base rest tabs last h ih =>
    have ih := ih false (by omega) (.inl (by simp))
    rw [show base + (offset + 1) - anchor = base + offset - anchor + 1 by omega, h] at ih
    obtain ⟨rfl, rfl⟩ := Prod.mk.inj ih
    rw [walk_tab]
  | case3 line offset anchor base rest ih =>
    rw [walk_return, walk_newline, ih false (Nat.le_refl _) (.inl (by simp)), back, if_pos rfl]
  | case4 line offset anchor base rest other ih =>
    -- The return was the last character, or no newline follows it: `after` is never looked at.
    have last : rest.head? ≠ some '\n' := by
      cases rest <;> simp_all
    rw [walk_return, ih true (Nat.le_refl _) (.inr last), back]
  | case5 line offset anchor base rest line' ih =>
    have same : after = (joined && offset == 0) := stands.resolve_right (by simp)
    rw [walk_newline, ih false (Nat.le_refl _) (.inl (by simp)), back, same]
  | case6 line offset anchor base c rest ht _ hr hn ih =>
    have ih := ih false (by omega) (.inl (by simp))
    rw [show base + (offset + 1) - anchor = base + offset - anchor + 1 by omega] at ih
    rw [walk_other ht hr hn, ih]

/-- A piece is taken in as one goes through its characters. -/
theorem feed_eq_walk (t : Tracker) (piece : List Char) : t.feed piece = t.walk piece := by
  have h := sweep_eq_walk t.afterReturn t.line 0 0 t.column piece t.afterReturn (Nat.le_refl 0)
    (.inl (by simp))
  have last := walk_afterReturn t piece
  unfold feed
  rw [h, ← last]
  rfl

/-- Two pieces are taken in as one. -/
theorem feed_append (t : Tracker) (a b : List Char) :
    t.feed (a ++ b) = ((t.feed a).1 ++ ((t.feed a).2.feed b).1, ((t.feed a).2.feed b).2) := by
  simp only [feed_eq_walk, walk_append]

/-! ## The tabs that are met -/

/-- A `\r` before a piece matters only to a `\n` that opens it. -/
theorem walk_tabs_after (line column : Nat) {text : List Char} (first : text.head? ≠ some '\n') :
    (walk ⟨line, column, true⟩ text).1 = (walk ⟨line, column, false⟩ text).1 := by
  cases text with
  | nil => rfl
  | cons c rest =>
    have hn : c ≠ '\n' := by simpa using first
    have same : next ⟨line, column, true⟩ c = next ⟨line, column, false⟩ c := by
      simp only [next, if_neg hn]
    simp only [walk, same]

/-- The tabs that are met are those of the lines. -/
theorem walk_tabs (text : List Char) (line column : Nat) :
    (walk ⟨line, column, false⟩ text).1 = linesTabs line column (textLines text) := by
  fun_induction textLines text generalizing line column with
  | case1 => rfl
  | case2 rest ih => exact ih (line + 1) 1
  | case3 rest other ih =>
    have last : rest.head? ≠ some '\n' := by
      cases rest <;> simp_all
    rw [walk_return, walk_tabs_after _ _ last, ih]
    rfl
  | case4 rest ih => exact ih (line + 1) 1
  | case5 c rest _ _ _ none ih => exact absurd none (textLines_ne_nil rest)
  | case6 c rest _ hr hn chars lines h ih =>
    rw [h] at ih
    by_cases ht : c = '\t'
    · subst ht
      rw [walk_tab, ih]
      rfl
    · rw [walk_other ht hr hn, ih, linesTabs, linesTabs, lineTabs, if_neg ht]
      rfl

/-- The tabs of a text taken in at once are the tabs of the text. -/
theorem feed_initial (text : List Char) : (initial.feed text).1 = tabsOf text := by
  rw [feed_eq_walk]
  exact walk_tabs text 1 1

end Tracker

/-- Tabs on two lines, with a `\r\n` between them. -/
example : tabsOf ['a', '\t', '\r', '\n', '\t'] = [⟨1, 2⟩, ⟨2, 1⟩] := by decide

end TabAudit
