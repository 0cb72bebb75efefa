import Mathlib
import TabAudit.Console.Markup
import TabAudit.Proofs.Console.Emoji
import TabAudit.Proofs.Terminal.Laws

/-!
# What escaped data shows

Escaped data is cut into the same stretches as the data itself, tags being stretches of their own.
So it is shown as it is, unless a stretch has the name of an emoji in it, a backslash in front of a
bracket, or a single backslash at its end.
-/

namespace TabAudit.Console.Markup

open Terminal (Bracketless EndsAlone Tame)

/-! ## Segments -/

/-- The stretches of a text between its tags, and the tags. `plain` are the characters before it
that belong to the stretch under way, in reverse, and behind them are so many backslashes; those in
front of a tag are a stretch of their own. -/
def segments (plain : List Char) (run : Nat) (s : List Char) : List (List Char) :=
  match s with
  | [] => [plain.reverse ++ backslashes run]
  | '\\' :: rest => segments plain (run + 1) rest
  | '[' :: rest =>
    match tagSize? rest with
    | some size =>
      plain.reverse :: backslashes run :: ('[' :: rest.take (size + 1)) ::
        segments [] 0 (rest.drop (size + 1))
    | none => segments ('[' :: backslashes run ++ plain) 0 rest
  | c :: rest => segments (c :: backslashes run ++ plain) 0 rest
termination_by s.length

theorem backslashes_zero : backslashes 0 = [] := rfl

theorem backslashes_reverse (n : Nat) : (backslashes n).reverse = backslashes n :=
  List.reverse_replicate

theorem backslashes_succ (n : Nat) (s : List Char) :
    backslashes (n + 1) ++ s = backslashes n ++ '\\' :: s := by
  simp [backslashes, List.replicate_succ']

/-- The segments make up the text. -/
theorem flatten_segments (plain : List Char) (run : Nat) (s : List Char) :
    (segments plain run s).flatten = plain.reverse ++ backslashes run ++ s := by
  fun_induction segments plain run s with
  | case1 => simp
  | case2 plain run rest ih => rw [ih, List.append_assoc, backslashes_succ, List.append_assoc]
  | case3 plain run rest size tag ih => simp [ih, backslashes_zero]
  | case4 plain run rest none ih =>
    rw [ih]
    simp [backslashes_reverse, backslashes_zero]
  | case5 plain run c rest _ _ ih =>
    rw [ih]
    simp [backslashes_reverse, backslashes_zero]

/-! ## Tags -/

/-- The brackets of a text begin with a closing one, or with an opening one, or there are none. -/
theorem exists_first_bracket (s : List Char) :
    ∃ front, Bracketless front ∧
      (s = front ∨ (∃ rest, s = front ++ ']' :: rest) ∨ ∃ rest, s = front ++ '[' :: rest) := by
  induction s with
  | nil => exact ⟨[], by simp [Bracketless], .inl rfl⟩
  | cons c s ih =>
    by_cases closing : c = ']'
    · exact ⟨[], by simp [Bracketless], .inr (.inl ⟨s, by simp [closing]⟩)⟩
    by_cases opening : c = '['
    · exact ⟨[], by simp [Bracketless], .inr (.inr ⟨s, by simp [opening]⟩)⟩
    obtain ⟨front, free, cases_⟩ := ih
    refine ⟨c :: front, List.forall_mem_cons.mpr ⟨⟨opening, closing⟩, free⟩, ?_⟩
    rcases cases_ with rfl | ⟨rest, rfl⟩ | ⟨rest, rfl⟩
    · exact .inl rfl
    · exact .inr (.inl ⟨rest, rfl⟩)
    · exact .inr (.inr ⟨rest, rfl⟩)

theorem bracketless_backslashes (n : Nat) : Bracketless (backslashes n) := by
  intro c member
  rw [List.eq_of_mem_replicate member]
  decide

variable {front tail : List Char}

/-- A text without brackets is a tag if its first character opens one and a closing bracket is the
next. -/
theorem tagSize?_bracket (free : Bracketless front) {b : Char} (bracket : b = '[' ∨ b = ']')
    (rest : List Char) :
    tagSize? (front ++ b :: rest) =
      if front.head?.any opensTag ∧ b = ']' then some front.length else none := by
  cases front with
  | nil => rcases bracket with rfl | rfl <;> simp [tagSize?, opensTag]
  | cons c inner =>
    obtain ⟨-, free⟩ := List.forall_mem_cons.mp free
    have inside : (inner ++ b :: rest).takeWhile (fun c => c ≠ '[' && c ≠ ']') = inner := by
      rw [List.takeWhile_append_of_pos (by simpa using free), List.takeWhile_cons_of_neg,
        List.append_nil]
      rcases bracket with rfl | rfl <;> simp
    simp only [List.cons_append, tagSize?, inside, List.drop_left, List.head?_cons]
    by_cases opens : opensTag c = true <;> by_cases closes : b = ']' <;> simp [opens, closes]

theorem tagSize?_bracketless (free : Bracketless front) : tagSize? front = none := by
  cases front with
  | nil => rfl
  | cons c inner =>
    obtain ⟨-, free⟩ := List.forall_mem_cons.mp free
    have inside : inner.takeWhile (fun c => c ≠ '[' && c ≠ ']') = inner :=
      List.takeWhile_eq_self_iff.mpr (by simpa using free)
    simp only [tagSize?, inside, List.drop_length]
    simp

/-- A tag ends at the first bracket. -/
theorem exists_of_tagSize? {s : List Char} {size : Nat} (h : tagSize? s = some size) :
    ∃ inner rest, s = inner ++ ']' :: rest ∧ Bracketless inner ∧ size = inner.length := by
  obtain ⟨front, free, rfl | ⟨rest, rfl⟩ | ⟨rest, rfl⟩⟩ := exists_first_bracket s
  · rw [tagSize?_bracketless free] at h
    cases h
  · rw [tagSize?_bracket free (.inr rfl)] at h
    split at h
    · cases h
      exact ⟨front, rest, rfl, free, rfl⟩
    · cases h
  · rw [tagSize?_bracket free (.inl rfl)] at h
    simp at h

theorem take_tag (inner rest : List Char) :
    (inner ++ ']' :: rest).take (inner.length + 1) = inner ++ [']'] := by
  simp [List.take_append]

theorem drop_tag (inner rest : List Char) :
    (inner ++ ']' :: rest).drop (inner.length + 1) = rest := by simp

/-- What is put behind the last bracket makes no tag. -/
theorem tagSize?_append (s : List Char) (free : Bracketless tail) :
    tagSize? (s ++ tail) = tagSize? s := by
  obtain ⟨front, free', rfl | ⟨rest, rfl⟩ | ⟨rest, rfl⟩⟩ := exists_first_bracket s
  · rw [tagSize?_bracketless free', tagSize?_bracketless]
    exact List.forall_mem_append.mpr ⟨free', free⟩
  · rw [List.append_assoc, List.cons_append, tagSize?_bracket free' (.inr rfl),
      tagSize?_bracket free' (.inr rfl)]
  · rw [List.append_assoc, List.cons_append, tagSize?_bracket free' (.inl rfl),
      tagSize?_bracket free' (.inl rfl)]

/-! ## Escaped texts -/

/-- A text without brackets is left as it is, up to the backslashes at its end. -/
theorem escapeTags_append (run : Nat) (free : Bracketless front) :
    ∃ kept run', Bracketless kept ∧ kept ++ backslashes run' = backslashes run ++ front ∧
      ∀ s, escapeTags run (front ++ s) = kept ++ escapeTags run' s := by
  induction front generalizing run with
  | nil => exact ⟨[], run, by simp [Bracketless], by simp, by simp⟩
  | cons c front ih =>
    obtain ⟨other, others⟩ := List.forall_mem_cons.mp free
    by_cases slash : c = '\\'
    · subst slash
      obtain ⟨kept, run', plain, same, all⟩ := ih (run + 1) others
      exact ⟨kept, run', plain, by rw [same, backslashes_succ], fun s => by
        rw [List.cons_append, escapeTags, all]⟩
    · obtain ⟨kept, run', plain, same, all⟩ := ih 0 others
      refine ⟨backslashes run ++ c :: kept, run', ?_, ?_, fun s => ?_⟩
      · exact List.forall_mem_append.mpr
          ⟨bracketless_backslashes run, List.forall_mem_cons.mpr ⟨other, plain⟩⟩
      · rw [List.append_assoc, List.cons_append, same, backslashes_zero, List.nil_append]
      · rw [List.cons_append, escapeTags, all]
        · simp
        · exact slash
        · exact other.1

/-- Escaping makes no new tag, and leaves none out. -/
theorem tagSize?_escapeTags (s : List Char) (free : Bracketless tail) :
    tagSize? (escapeTags 0 s ++ tail) = tagSize? s := by
  rw [tagSize?_append _ free]
  obtain ⟨front, free', cases_⟩ := exists_first_bracket s
  obtain ⟨kept, run, plain, same, all⟩ := escapeTags_append 0 free'
  rcases cases_ with rfl | ⟨rest, rfl⟩ | ⟨rest, rfl⟩
  · have whole := all []
    rw [List.append_nil, escapeTags, same, backslashes_zero, List.nil_append] at whole
    rw [whole]
  · rw [all, escapeTags, ← List.append_assoc, same, backslashes_zero, List.nil_append,
      tagSize?_bracket free' (.inr rfl), tagSize?_bracket free' (.inr rfl)]
    · decide
    · decide
  · -- Whatever stands behind the bracket, an opening one comes before a closing one.
    have first (n : Nat) (s : List Char) :
        tagSize? (kept ++ (backslashes n ++ '[' :: s)) = none := by
      rw [← List.append_assoc, tagSize?_bracket _ (.inl rfl)]
      · simp
      · exact List.forall_mem_append.mpr ⟨plain, bracketless_backslashes n⟩
    rw [tagSize?_bracket free' (.inl rfl), all, escapeTags]
    split
    · simpa using first _ _
    · simpa using first _ _

/-! ## What escaped texts show -/

theorem stretches_backslashes (plain : List Char) (run n : Nat) (s : List Char) :
    stretches plain run (backslashes n ++ s) = stretches plain (run + n) s := by
  induction n generalizing run with
  | zero => rfl
  | succ n ih =>
    have next : backslashes (n + 1) ++ s = '\\' :: (backslashes n ++ s) := rfl
    rw [next, stretches, ih, Nat.add_right_comm, Nat.add_assoc]

/-- Without brackets there is one stretch, and all of it is shown. -/
theorem stretches_bracketless (plain : List Char) (run : Nat) (free : Bracketless tail) :
    stretches plain run tail = segments plain run tail := by
  fun_induction segments plain run tail with
  | case1 => rw [stretches]
  | case2 plain run rest ih => rw [stretches, ih (List.forall_mem_cons.mp free).2]
  | case3 plain run rest => exact absurd rfl (free '[' List.mem_cons_self).1
  | case4 plain run rest => exact absurd rfl (free '[' List.mem_cons_self).1
  | case5 plain run c rest no_backslash no_bracket ih =>
    rw [stretches, ih (List.forall_mem_cons.mp free).2]
    · exact no_backslash
    · exact no_bracket

theorem segments_bracketless (plain : List Char) (run : Nat) (free : Bracketless tail) :
    segments plain run tail = [plain.reverse ++ backslashes run ++ tail] := by
  fun_induction segments plain run tail with
  | case1 => rw [List.append_nil]
  | case2 plain run rest ih =>
    rw [ih (List.forall_mem_cons.mp free).2, List.append_assoc, backslashes_succ,
      List.append_assoc]
  | case3 plain run rest => exact absurd rfl (free '[' List.mem_cons_self).1
  | case4 plain run rest => exact absurd rfl (free '[' List.mem_cons_self).1
  | case5 plain run c rest no_backslash no_bracket ih =>
    rw [ih (List.forall_mem_cons.mp free).2]
    simp [backslashes_reverse, backslashes_zero]

/-- What is put behind the last bracket goes into the last segment. -/
theorem exists_segments_append (plain : List Char) (run : Nat) (s : List Char)
    (free : Bracketless tail) :
    ∃ init last, segments plain run (s ++ tail) = init ++ [last ++ tail] := by
  fun_induction segments plain run s with
  | case1 plain run => exact ⟨[], _, segments_bracketless plain run free⟩
  | case2 plain run rest ih => rwa [List.cons_append, segments]
  | case3 plain run rest size tag ih =>
    obtain ⟨inner, behind, rfl, free', rfl⟩ := exists_of_tagSize? tag
    obtain ⟨init, last, parts⟩ := ih
    rw [drop_tag] at parts
    rw [List.cons_append, segments, tagSize?_append _ free, tag, List.append_assoc,
      List.cons_append]
    simp only [drop_tag, parts]
    exact ⟨_ :: _ :: _ :: init, last, rfl⟩
  | case4 plain run rest none ih =>
    rw [List.cons_append, segments, tagSize?_append _ free, none]
    exact ih
  | case5 plain run c rest no_backslash no_bracket ih =>
    rw [List.cons_append, segments]
    · exact ih
    · exact no_backslash
    · exact no_bracket

/-- The stretches of an escaped text are the segments of the text. -/
theorem stretches_escapeTags (plain : List Char) (run : Nat) (s : List Char)
    (free : Bracketless tail) :
    stretches plain 0 (escapeTags run s ++ tail) = segments plain run (s ++ tail) := by
  fun_induction segments plain run s with
  | case1 plain run =>
    rw [escapeTags, stretches_backslashes, Nat.zero_add, List.nil_append,
      stretches_bracketless _ _ free]
  | case2 plain run rest ih => rw [escapeTags, ih, List.cons_append, segments]
  | case3 plain run rest size tag ih =>
    obtain ⟨inner, behind, rfl, free', rfl⟩ := exists_of_tagSize? tag
    have closed (s : List Char) : tagSize? (inner ++ ']' :: s) = some inner.length := by
      rw [tagSize?_bracket free' (.inr rfl)] at tag ⊢
      exact tag
    have escaped : escapeTags run ('[' :: (inner ++ ']' :: behind)) =
        backslashes (2 * run + 1) ++ '[' :: (inner ++ ']' :: escapeTags 0 behind) := by
      rw [escapeTags, tag]
      simp only [List.take_left, List.drop_left]
      rw [escapeTags, backslashes_zero]
      · simp
      · decide
      · decide
    rw [drop_tag] at ih
    -- Half of the backslashes in front of the tag are shown, and the odd one keeps its bracket.
    have half : (2 * run + 1) / 2 = run := by omega
    have odd : (2 * run + 1) % 2 = 1 := by omega
    have whole (s : List Char) :
        '[' :: (inner ++ ']' :: s) ++ tail = '[' :: (inner ++ ']' :: (s ++ tail)) := by simp
    rw [escaped, List.append_assoc, stretches_backslashes, Nat.zero_add, whole, whole, stretches,
      segments, closed, closed]
    simp only [half, odd, if_true, drop_tag, take_tag, ih]
  | case4 plain run rest none ih =>
    have none' : tagSize? (rest ++ tail) = .none := by rw [tagSize?_append _ free, none]
    have none'' : tagSize? (escapeTags 0 rest ++ tail) = .none := by
      rw [tagSize?_escapeTags _ free, none]
    rw [escapeTags, none, List.cons_append, segments, none']
    simp only
    rw [List.append_assoc, stretches_backslashes, List.cons_append, stretches, none'', Nat.zero_add]
    exact ih
  | case5 plain run c rest no_backslash no_bracket ih =>
    have escaped : escapeTags run (c :: rest) = backslashes run ++ c :: escapeTags 0 rest := by
      rw [escapeTags]
      · exact no_backslash
      · exact no_bracket
    rw [escaped, List.append_assoc, stretches_backslashes, List.cons_append, List.cons_append,
      stretches, segments, Nat.zero_add, ih]
    all_goals assumption

theorem doubleLast_cases (s : List Char) :
    (EndsAlone s ∧ doubleLast s = s ++ ['\\']) ∨ (¬ EndsAlone s ∧ doubleLast s = s) := by
  have ends : EndsAlone s ↔ ∃ rest, s.reverse = '\\' :: rest ∧ rest.head? ≠ some '\\' := by
    constructor
    · rintro ⟨front, rfl, other⟩
      exact ⟨front.reverse, by simp, by simpa using other⟩
    · rintro ⟨rest, reversed, other⟩
      exact ⟨rest.reverse, by rw [← List.reverse_reverse s, reversed, List.reverse_cons],
        by simpa using other⟩
  rw [ends]
  unfold doubleLast
  split
  · rename_i rest reversed
    simp [reversed]
  · rename_i rest other reversed
    refine .inl ⟨⟨rest, reversed, fun first => ?_⟩, rfl⟩
    obtain ⟨more, rfl⟩ := List.head?_eq_some_iff.mp first
    exact other more rfl
  · rename_i other
    exact .inr ⟨fun ⟨rest, reversed, _⟩ => other rest reversed, rfl⟩

/-- An escaped text ends as the text does. -/
theorem getLast?_escapeTags (run : Nat) (s : List Char) :
    (escapeTags run s).getLast? = (backslashes run ++ s).getLast? := by
  fun_induction escapeTags run s with
  | case1 run => rw [List.append_nil]
  | case2 run rest ih => rw [ih, backslashes_succ]
  | case3 run rest size tag ih =>
    obtain ⟨inner, behind, rfl, -, rfl⟩ := exists_of_tagSize? tag
    rw [List.drop_left] at ih ⊢
    simp [List.getLast?_append, List.getLast?_cons, ih, backslashes_zero]
  | case4 run rest none ih => simp [List.getLast?_append, List.getLast?_cons, ih, backslashes_zero]
  | case5 run c rest _ _ ih => simp [List.getLast?_append, List.getLast?_cons, ih, backslashes_zero]

theorem escapeTags_snoc (run : Nat) (s : List Char) :
    escapeTags run (s ++ ['\\']) = escapeTags run s ++ ['\\'] := by
  have free : Bracketless ['\\'] := by simp [Bracketless]
  fun_induction escapeTags run s with
  | case1 run => simp [escapeTags, backslashes, List.replicate_succ']
  | case2 run rest ih => rw [List.cons_append, escapeTags, ih]
  | case3 run rest size tag ih =>
    obtain ⟨inner, behind, rfl, -, rfl⟩ := exists_of_tagSize? tag
    rw [List.drop_left] at ih ⊢
    rw [List.cons_append] at ih
    rw [List.cons_append, escapeTags, tagSize?_append _ free, tag]
    simp [ih]
  | case4 run rest none ih =>
    rw [List.cons_append, escapeTags, tagSize?_append _ free, none]
    simp [ih]
  | case5 run c rest no_backslash no_bracket ih =>
    rw [List.cons_append, escapeTags, ih]
    · simp
    · exact no_backslash
    · exact no_bracket

theorem endsAlone_escapeTags (s : List Char) : EndsAlone (escapeTags 0 s) ↔ EndsAlone s := by
  have ends (s : List Char) : (escapeTags 0 s).getLast? = s.getLast? := getLast?_escapeTags 0 s
  constructor
  · rintro ⟨front, whole, other⟩
    have last : s.getLast? = some '\\' := by rw [← ends, whole, List.getLast?_concat]
    obtain ⟨rest, rfl⟩ := List.getLast?_eq_some_iff.mp last
    rw [escapeTags_snoc, List.append_cancel_right_eq] at whole
    exact ⟨rest, rfl, by rwa [← ends, whole]⟩
  · rintro ⟨front, rfl, other⟩
    exact ⟨escapeTags 0 front, escapeTags_snoc 0 front, by rwa [ends]⟩

/-- An escaped text in front of one without brackets has the segments of both, unless it ends in a
single backslash. -/
theorem stretches_escape (plain : List Char) {s : List Char} (ends : ¬ EndsAlone s)
    (free : Bracketless tail) :
    stretches plain 0 (escape s ++ tail) = segments plain 0 (s ++ tail) := by
  have kept := (doubleLast_cases (escapeTags 0 s)).resolve_left fun other =>
    ends ((endsAlone_escapeTags s).mp other.1)
  rw [escape, kept.2, stretches_escapeTags plain 0 s free]

/-! ## Texts without opening brackets -/

theorem escapeTags_of_notMem (run : Nat) {s : List Char} (free : '[' ∉ s) :
    escapeTags run s = backslashes run ++ s := by
  fun_induction escapeTags run s with
  | case1 run => rw [List.append_nil]
  | case2 run rest ih =>
    rw [ih (List.not_mem_of_not_mem_cons free), backslashes_succ]
  | case3 | case4 => simp at free
  | case5 run c rest _ _ ih =>
    rw [ih (List.not_mem_of_not_mem_cons free), backslashes_zero, List.nil_append]

theorem escape_of_notMem {s : List Char} (free : '[' ∉ s) : escape s = doubleLast s := by
  rw [escape, escapeTags_of_notMem 0 free, backslashes_zero, List.nil_append]

theorem stretches_of_notMem (plain : List Char) (run : Nat) {s : List Char} (free : '[' ∉ s) :
    stretches plain run s = [plain.reverse ++ backslashes run ++ s] := by
  fun_induction stretches plain run s with
  | case1 => rw [List.append_nil]
  | case2 plain run rest ih =>
    rw [ih (List.not_mem_of_not_mem_cons free), List.append_assoc, backslashes_succ,
      List.append_assoc]
  | case3 | case4 => simp at free
  | case5 plain run c rest _ _ ih =>
    rw [ih (List.not_mem_of_not_mem_cons free)]
    simp [backslashes_reverse, backslashes_zero]

theorem stretches_append (plain : List Char) (free : ∀ c ∈ front, c ≠ '\\' ∧ c ≠ '[')
    (s : List Char) : stretches plain 0 (front ++ s) = stretches (front.reverse ++ plain) 0 s := by
  induction front generalizing plain with
  | nil => rfl
  | cons c front ih =>
    obtain ⟨⟨no_backslash, no_bracket⟩, others⟩ := List.forall_mem_cons.mp free
    rw [List.cons_append, stretches, ih _ others]
    · simp [backslashes_zero]
    · exact no_backslash
    · exact no_bracket

/-! ## Texts that are shown as they are -/

/-- What is shown of a stretch. -/
def drawn (stretch : List Char) : List Char := drawNames emoji? (plainText stretch)

theorem shown_eq (s : List Char) : shown s = (stretches [] 0 s).flatMap drawn := rfl

/-- Without backslashes in front of brackets none is dropped. -/
theorem plainText_eq_self {s : List Char} (free : ¬ ['\\', '['] <:+: s) : plainText s = s := by
  fun_induction plainText s with
  | case1 rest ih => exact absurd ⟨[], rest, rfl⟩ free
  | case2 c rest other ih =>
    rw [ih fun inside => free (inside.trans (List.suffix_cons c rest).isInfix)]
  | case3 => rfl

theorem drawn_eq_self {stretch : List Char} (brackets : ¬ ['\\', '['] <:+: stretch)
    (names : ∀ name ∈ colonNames stretch, emoji? name = none) : drawn stretch = stretch := by
  rw [drawn, plainText_eq_self brackets]
  exact (drawNames_eq_self_iff notMem_of_emoji?).mpr names

theorem shown_of_notMem {s : List Char} (free : '[' ∉ s) : shown s = drawNames emoji? s := by
  have brackets : ¬ ['\\', '['] <:+: s := fun inside => free (inside.subset (by simp))
  rw [shown_eq, stretches_of_notMem [] 0 free, List.flatMap_singleton, drawn]
  exact congrArg _ (plainText_eq_self brackets)

/-- What begins with a character that is not in front of a text stands in the text. -/
theorem infix_of_infix_append {c : Char} {l s : List Char} (h : c :: l <:+: front ++ s)
    (free : c ∉ front) : c :: l <:+: s := by
  induction front with
  | nil => exact h
  | cons d front ih =>
    obtain ⟨other, others⟩ := List.ne_and_not_mem_of_not_mem_cons free
    rw [List.cons_append, List.infix_cons_iff] at h
    exact ih (h.resolve_left fun first => other (List.cons_prefix_cons.mp first).1) others

/-- Behind the last bracket no backslash stands in front of one. -/
theorem not_infix_append {s : List Char} (brackets : ¬ ['\\', '['] <:+: s)
    (free : Bracketless tail) : ¬ ['\\', '['] <:+: s ++ tail := by
  rw [← List.reverse_infix, List.reverse_append]
  rw [← List.reverse_infix] at brackets
  exact fun inside => brackets (infix_of_infix_append inside fun member =>
    (free _ (List.mem_reverse.mp member)).1 rfl)

/-- Escaped data behind blanks is shown as it is if no emoji has a name in it or behind it. -/
theorem shown_escape {blanks s : List Char} (blank : ∀ c ∈ blanks, c = ' ') (tame : Tame s)
    (free : Bracketless tail)
    (names : ∀ name, ':' :: name ++ [':'] <:+: s ++ tail → emoji? name = none) :
    shown (blanks ++ escape s ++ tail) = blanks ++ s ++ tail := by
  have apart {c : Char} (other : c ≠ ' ') : c ∉ blanks := fun member => other (blank c member)
  have whole : (segments blanks.reverse 0 (s ++ tail)).flatten = blanks ++ (s ++ tail) := by
    simp [flatten_segments, backslashes_zero]
  rw [shown_eq, List.append_assoc, stretches_append [] fun c member =>
    ⟨fun same => apart (by decide) (same ▸ member), fun same => apart (by decide) (same ▸ member)⟩,
    List.append_nil, stretches_escape _ tame.ending free]
  -- Whatever stands in a segment stands in the whole text.
  have each (part : List Char) (member : part ∈ segments blanks.reverse 0 (s ++ tail)) :
      drawn part = part := by
    have inside : part <:+: blanks ++ (s ++ tail) := whole ▸ List.infix_of_mem_flatten member
    refine drawn_eq_self (fun bracket => ?_) fun name found => names name ?_
    · exact not_infix_append tame.brackets free
        (infix_of_infix_append (bracket.trans inside) (apart (by decide)))
    · exact infix_of_infix_append ((infix_of_mem_colonNames found).trans inside)
        (apart (by decide))
  rw [List.flatMap_congr each, List.flatMap_id', whole, List.append_assoc]

/-- Behind escaped data without colons emoji are drawn as if it were not there. -/
theorem shown_escape_colonless {s : List Char} (tame : Tame s) (colon : ':' ∉ s)
    (free : Bracketless tail) :
    shown (escape s ++ tail) = s ++ drawNames emoji? tail := by
  obtain ⟨init, last, parts⟩ := exists_segments_append [] 0 s free
  have whole : (segments [] 0 (s ++ tail)).flatten = s ++ tail := flatten_segments [] 0 _
  have front : init.flatten ++ last = s := by
    rw [parts, List.flatten_append, List.flatten_singleton, ← List.append_assoc] at whole
    exact List.append_cancel_right whole
  have brackets {part : List Char} (member : part ∈ segments [] 0 (s ++ tail)) :
      ¬ ['\\', '['] <:+: part := fun bracket =>
    not_infix_append tame.brackets free
      (bracket.trans (whole ▸ List.infix_of_mem_flatten member))
  have each (part : List Char) (member : part ∈ init) : drawn part = part := by
    have none : ':' ∉ part := fun inside =>
      colon (front ▸ List.mem_append_left _ (List.mem_flatten_of_mem member inside))
    exact drawn_eq_self (brackets (by simp [parts, member])) (by simp [colonNames_of_notMem none])
  have last_ : drawn (last ++ tail) = last ++ drawNames emoji? tail := by
    rw [drawn, plainText_eq_self (brackets (by simp [parts]))]
    exact drawNames_append (fun inside => colon (front ▸ List.mem_append_right _ inside)) tail
  rw [shown_eq, stretches_escape [] tame.ending free, parts, List.flatMap_append,
    List.flatMap_singleton, last_, List.flatMap_congr each, List.flatMap_id', ← List.append_assoc,
    front]

/-! ## Styled texts -/

/-- Whether a text between brackets is a tag. -/
def IsTag (inner : List Char) : Prop := Bracketless inner ∧ inner.head?.any opensTag = true

theorem stretches_tag {inner : List Char} (tag : IsTag inner) (plain s : List Char) :
    stretches plain 0 ('[' :: inner ++ ']' :: s) =
      plain.reverse :: [] :: [] :: stretches [] 0 s := by
  rw [List.cons_append, stretches, tagSize?_bracket tag.1 (.inr rfl), if_pos ⟨tag.2, rfl⟩]
  simp [backslashes_zero]

/-- A label between two tags is shown without them. -/
theorem shown_styled {on off label : List Char} (opening : IsTag on) (closing : IsTag off)
    (free : Bracketless label) (backslash : '\\' ∉ label)
    (names : ∀ name, ':' :: name ++ [':'] <:+: label → emoji? name = none) (s : List Char) :
    shown ('[' :: on ++ ']' :: (label ++ ('[' :: off ++ ']' :: s))) = label ++ shown s := by
  have none : drawn [] = [] := by simp [drawn, plainText, drawNames]
  have kept : drawn label = label :=
    drawn_eq_self (fun inside => backslash (inside.subset (by simp))) fun name found =>
      names name (infix_of_mem_colonNames found)
  rw [shown_eq, stretches_tag opening, stretches_append [] fun c member =>
    ⟨fun same => backslash (same ▸ member), (free c member).1⟩, stretches_tag closing]
  simp [none, kept, shown_eq]

end TabAudit.Console.Markup
