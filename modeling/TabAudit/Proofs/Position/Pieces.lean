import Mathlib.Data.List.DropRight
import TabAudit.Proofs.Position.Tabs

/-!
# A text in pieces

A tracker is fed a text in any number of pieces, some of them empty. `feedAll_eq_feed` says that
the cuts do not matter. The places are then counted off the text itself, character by character:
the line by the line breaks before a place, the column by the characters since the last of them.
-/

namespace TabAudit

/-! ## Places by counting -/

/-- How many line breaks a text holds. Each of `\r\n`, a lone `\r` and a lone `\n` is one. -/
def lineBreaks : List Char → Nat
  | [] => 0
  | '\r' :: '\n' :: rest => lineBreaks rest + 1
  | '\r' :: rest => lineBreaks rest + 1
  | '\n' :: rest => lineBreaks rest + 1
  | _ :: rest => lineBreaks rest

/-- Whether a character is a part of a line break. -/
def endsLine (c : Char) : Bool := c == '\r' || c == '\n'

/-- How many characters stand behind the last line break of a text. -/
def sinceBreak (text : List Char) : Nat := (text.rtakeWhile fun c => !endsLine c).length

/-- The place of what comes directly behind a text. -/
def placeBehind (text : List Char) : Position := ⟨1 + lineBreaks text, 1 + sinceBreak text⟩

/-- The places of the tabs of a text, in order. -/
def tabPlaces (text : List Char) : List Position :=
  ((List.range text.length).filter fun i => text[i]? == some '\t').map
    fun i => placeBehind (text.take i)

theorem sinceBreak_snoc (text : List Char) (c : Char) :
    sinceBreak (text ++ [c]) = if endsLine c then 0 else sinceBreak text + 1 := by
  cases h : endsLine c with
  | true => rw [sinceBreak, List.rtakeWhile_concat_neg _ _ _ (by simp [h])]; rfl
  | false =>
    rw [sinceBreak, List.rtakeWhile_concat_pos _ _ _ (by simp [h]), List.length_append]
    rfl

/-- A further character adds its own place if it is a tab, and moves no other. -/
theorem tabPlaces_snoc (text : List Char) (c : Char) :
    tabPlaces (text ++ [c]) = tabPlaces text ++ if c = '\t' then [placeBehind text] else [] := by
  have front : ∀ i ∈ List.range text.length,
      (text ++ [c])[i]? = text[i]? ∧ (text ++ [c]).take i = text.take i := by
    intro i hi
    have inside : i < text.length := List.mem_range.mp hi
    exact ⟨List.getElem?_append_left inside, List.take_append_of_le_length (Nat.le_of_lt inside)⟩
  have kept : ((List.range text.length).filter fun i => (text ++ [c])[i]? == some '\t') =
      (List.range text.length).filter fun i => text[i]? == some '\t' :=
    List.filter_congr fun i hi => by rw [(front i hi).1]
  have placed : (((List.range text.length).filter fun i => text[i]? == some '\t').map
      fun i => placeBehind ((text ++ [c]).take i)) = tabPlaces text :=
    List.map_congr_left fun i hi => by rw [(front i (List.mem_of_mem_filter hi)).2]
  rw [tabPlaces, List.length_append, List.length_singleton, List.range_succ, List.filter_append,
    List.map_append, kept, placed]
  by_cases tab : c = '\t' <;> simp [tab]

/-- There is one place for each tab. -/
theorem length_tabPlaces (text : List Char) : (tabPlaces text).length = text.count '\t' := by
  induction text using List.reverseRecOn with
  | nil => rfl
  | append_singleton text c ih =>
    rw [tabPlaces_snoc, List.length_append, List.count_append, ih]
    by_cases tab : c = '\t' <;> simp [tab]

/-- Two tabs on a line with `\r\n`, `\r\n` and `\n` before it. -/
example : tabPlaces ['\r', '\n', '\r', '\n', '\n', 'a', '\t', '\t'] = [⟨4, 2⟩, ⟨4, 3⟩] := by decide

namespace Tracker

/-! ## Pieces in turn -/

/-- The tabs of pieces that are fed in turn, and the place after them. -/
def feedAll (t : Tracker) : List (List Char) → List Position × Tracker
  | [] => ([], t)
  | piece :: rest =>
    let (tabs, t) := t.feed piece
    let (more, t) := t.feedAll rest
    (tabs ++ more, t)

/-- Pieces that are fed in turn are taken in as the text that they make up. -/
theorem feedAll_eq_feed (t : Tracker) (pieces : List (List Char)) :
    t.feedAll pieces = t.feed pieces.flatten := by
  induction pieces generalizing t with
  | nil => rw [List.flatten_nil, feed_eq_walk]; rfl
  | cons piece rest ih =>
    rw [List.flatten_cons, feed_append, ← ih]
    rfl

/-! ## Where a walk leads -/

/-- Every line break that is met leads to the next line. The `\r` of a break that is not over yet
was counted before. -/
theorem walk_line (text : List Char) (line column : Nat) (after : Bool)
    (stands : after = false ∨ text.head? ≠ some '\n') :
    (walk ⟨line, column, after⟩ text).2.line = line + lineBreaks text := by
  fun_induction lineBreaks text generalizing line column after with
  | case1 => rfl
  | case2 rest ih =>
    rw [walk_return, walk_newline, if_pos rfl, ih _ _ false (.inl rfl)]
    omega
  | case3 rest other ih =>
    have last : rest.head? ≠ some '\n' := by
      cases rest <;> simp_all
    rw [walk_return, ih _ _ true (.inr last)]
    omega
  | case4 rest ih =>
    obtain rfl : after = false := stands.resolve_right (by simp)
    rw [walk_newline, if_neg (by simp), ih _ _ false (.inl rfl)]
    omega
  | case5 c rest _ hr hn ih =>
    by_cases tab : c = '\t'
    · subst tab
      rw [walk_tab]
      exact ih _ _ false (.inl rfl)
    · rw [walk_other tab hr hn]
      exact ih _ _ false (.inl rfl)

theorem walk_snoc (t : Tracker) (text : List Char) (c : Char) :
    t.walk (text ++ [c]) =
      ((t.walk text).1 ++ ((t.walk text).2.next c).1, ((t.walk text).2.next c).2) := by
  rw [walk_append, walk, walk, List.append_nil]

theorem next_column (t : Tracker) (c : Char) :
    (t.next c).2.column = if endsLine c then 1 else t.column + 1 := by
  unfold next
  split
  · simp_all [endsLine]
  · split
    · simp_all [endsLine]
    · split <;> simp_all [endsLine]

theorem next_tabs (t : Tracker) (c : Char) :
    (t.next c).1 = if c = '\t' then [⟨t.line, t.column⟩] else [] := by
  unfold next
  split
  · rfl
  · split
    · rfl
    · split <;> rfl

/-- The column counts the characters since the last line break. -/
theorem walk_column (text : List Char) :
    (initial.walk text).2.column = 1 + sinceBreak text := by
  induction text using List.reverseRecOn with
  | nil => rfl
  | append_singleton text c ih =>
    rw [walk_snoc, next_column, sinceBreak_snoc, ih]
    split <;> omega

/-- The place after a text. -/
theorem walk_place (text : List Char) :
    (⟨(initial.walk text).2.line, (initial.walk text).2.column⟩ : Position) = placeBehind text := by
  rw [walk_column, placeBehind]
  exact congrArg (Position.mk · _) (walk_line text 1 1 false (.inl rfl))

/-- The tabs that are met stand where counting puts them. -/
theorem walk_tabPlaces (text : List Char) : (initial.walk text).1 = tabPlaces text := by
  induction text using List.reverseRecOn with
  | nil => rfl
  | append_singleton text c ih =>
    rw [walk_snoc, next_tabs, tabPlaces_snoc, ih, walk_place]

/-- The tabs found line by line stand where counting puts them. -/
theorem tabsOf_eq_tabPlaces (text : List Char) : tabsOf text = tabPlaces text := by
  rw [← feed_initial, feed_eq_walk, walk_tabPlaces]

/-- However a text is cut into pieces, feeding them in turn does what feeding the text at once
does: each tab is given once, in order, at its line and column as counted off the text, and so is
the place after the text. -/
theorem feedAll_places (pieces : List (List Char)) :
    initial.feedAll pieces = initial.feed pieces.flatten ∧
      (initial.feedAll pieces).1 = tabPlaces pieces.flatten ∧
      (initial.feedAll pieces).1.length = pieces.flatten.count '\t' ∧
      (initial.feedAll pieces).2.line = 1 + lineBreaks pieces.flatten ∧
      (initial.feedAll pieces).2.column = 1 + sinceBreak pieces.flatten := by
  have whole := feedAll_eq_feed initial pieces
  have tabs : (initial.feedAll pieces).1 = tabPlaces pieces.flatten := by
    rw [whole, feed_eq_walk, walk_tabPlaces]
  refine ⟨whole, tabs, by rw [tabs, length_tabPlaces], ?_, ?_⟩
  · rw [whole, feed_eq_walk]
    exact walk_line pieces.flatten 1 1 false (.inl rfl)
  · rw [whole, feed_eq_walk, walk_column]

end Tracker

end TabAudit
