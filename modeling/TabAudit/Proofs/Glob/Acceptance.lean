import TabAudit.Proofs.Glob.Translation

/-!
# Which globs can be used

Said of the characters of a glob alone: a `**` must touch a separator or an end of the glob on both
sides, no three stars may stand in a row, and the last character must not be a backslash that
protects nothing. Whatever a glob is translated to can be read as a pattern.
-/

namespace TabAudit

namespace Glob

/-! ## Characters that a backslash protects -/

/-- A character of a glob, and whether a backslash protects it. -/
structure Mark where
  char : Char
  shielded : Bool
  deriving DecidableEq, Repr

/-- A character that nothing protects. -/
def bare (c : Char) : Mark := ⟨c, false⟩

/-- The characters of a glob, left to right. A backslash protects the next character unless it is
protected itself. -/
def marks (shielded : Bool) : List Char → List Mark
  | [] => []
  | c :: rest => ⟨c, shielded⟩ :: marks (!shielded && c == '\\') rest

theorem marks_of_ne {c : Char} (h : c ≠ '\\') (rest : List Char) :
    marks false (c :: rest) = bare c :: marks false rest := by
  have still : (!false && c == '\\') = false := by simpa using h
  rw [marks, still, bare]

theorem marks_escape (c : Char) (rest : List Char) :
    marks false ('\\' :: c :: rest) = bare '\\' :: ⟨c, true⟩ :: marks false rest := by
  simp [marks, bare]

theorem head?_marks {c : Char} {rest : List Char} (h : rest.head? ≠ some c) :
    (marks false rest).head? ≠ some (bare c) := by
  cases rest with
  | nil => simp [marks]
  | cons d rest => simpa [marks, bare] using h

/-! ## Runs of stars -/

/-- All the stars that stand in a row somewhere: `n` of them, none protected. -/
structure StarRun (ms before after : List Mark) (n : Nat) : Prop where
  split : ms = before ++ (List.replicate n (bare '*') ++ after)
  first : before.getLast? ≠ some (bare '*')
  last : after.head? ≠ some (bare '*')

/-- Whether a `**` may stand behind these characters. At the start `clear` decides. -/
def Opens (clear : Bool) (before : List Mark) : Prop :=
  before = [] ∧ clear = true ∨ before.getLast? = some (bare '/')

/-- Whether a `**` may stand before these characters. -/
def Closes (after : List Mark) : Prop := after = [] ∨ after.head? = some (bare '/')

/-- Whether some run of stars is too long, or is a `**` out of place. -/
def Stray (clear : Bool) (ms : List Mark) : Prop :=
  ∃ before after n, StarRun ms before after n ∧
    (3 ≤ n ∨ n = 2 ∧ ¬ (Opens clear before ∧ Closes after))

/-- Whether the last character is a backslash that protects nothing. -/
def Dangles (ms : List Mark) : Prop := ms.getLast? = some (bare '\\')

variable {m : Mark} {ms before after : List Mark} {clear : Bool} {n : Nat}

theorem two_le_of_wide {p : Prop} (h : 3 ≤ n ∨ n = 2 ∧ p) : 2 ≤ n := by omega

theorem opens_cons : Opens clear (m :: before) ↔ Opens (m = bare '/') before := by
  cases before with
  | nil => simp [Opens]
  | cons x before => simp [Opens, List.getLast?_cons_cons]

theorem not_stray_nil : ¬ Stray clear [] := by
  rintro ⟨before, after, n, run, wide⟩
  have := two_le_of_wide wide
  have := congrArg List.length run.split
  simp at this
  omega

/-- Any other character only matters to what stands directly behind it. -/
theorem stray_cons (h : m ≠ bare '*') : Stray clear (m :: ms) ↔ Stray (m = bare '/') ms := by
  constructor
  · rintro ⟨before, after, n, ⟨split, first, last⟩, wide⟩
    cases before with
    | nil =>
      obtain ⟨k, rfl⟩ : ∃ k, n = k + 1 := ⟨n - 1, by have := two_le_of_wide wide; omega⟩
      exact absurd (List.cons.inj split).1 h
    | cons x before =>
      obtain ⟨rfl, rest⟩ := List.cons.inj split
      refine ⟨before, after, n, ⟨rest, ?_, last⟩, by rwa [opens_cons] at wide⟩
      cases before with
      | nil => simp
      | cons y before => rwa [List.getLast?_cons_cons] at first
  · rintro ⟨before, after, n, ⟨rfl, first, last⟩, wide⟩
    refine ⟨m :: before, after, n, ⟨rfl, ?_, last⟩, by rwa [opens_cons]⟩
    cases before with
    | nil => simpa using h
    | cons y before => rwa [List.getLast?_cons_cons]

/-- A star that stands alone matters no more than any other character. -/
theorem stray_star (single : ms.head? ≠ some (bare '*')) :
    Stray clear (bare '*' :: ms) ↔ Stray false ms := by
  constructor
  · rintro ⟨before, after, n, ⟨split, first, last⟩, wide⟩
    rcases before with _ | ⟨x, _ | ⟨y, before⟩⟩
    · obtain ⟨k, rfl⟩ : ∃ k, n = k + 2 := ⟨n - 2, by have := two_le_of_wide wide; omega⟩
      obtain rfl := (List.cons.inj split).2
      simp [List.replicate_succ] at single
    · obtain ⟨rfl, -⟩ := List.cons.inj split
      simp at first
    · obtain ⟨rfl, rest⟩ := List.cons.inj split
      refine ⟨y :: before, after, n, ⟨rest, by rwa [List.getLast?_cons_cons] at first, last⟩, ?_⟩
      rwa [opens_cons] at wide
  · rintro ⟨before, after, n, ⟨rfl, first, last⟩, wide⟩
    cases before with
    | nil =>
      obtain ⟨k, rfl⟩ : ∃ k, n = k + 1 := ⟨n - 1, by have := two_le_of_wide wide; omega⟩
      simp [List.replicate_succ] at single
    | cons y before =>
      refine ⟨bare '*' :: y :: before, after, n, ⟨rfl, by rwa [List.getLast?_cons_cons], last⟩, ?_⟩
      rwa [opens_cons]

/-- A `**` is out of place, or what matters stands behind it. -/
theorem stray_pair (single : ms.head? ≠ some (bare '*')) :
    Stray clear (bare '*' :: bare '*' :: ms) ↔ ¬ (clear = true ∧ Closes ms) ∨ Stray false ms := by
  constructor
  · rintro ⟨before, after, n, ⟨split, first, last⟩, wide⟩
    rcases before with _ | ⟨x, _ | ⟨y, _ | ⟨z, before⟩⟩⟩
    · obtain ⟨k, rfl⟩ : ∃ k, n = k + 2 := ⟨n - 2, by have := two_le_of_wide wide; omega⟩
      obtain rfl := (List.cons.inj (List.cons.inj split).2).2
      cases k with
      | zero => exact .inl (by simpa [Opens] using wide)
      | succ k => simp [List.replicate_succ] at single
    · obtain ⟨rfl, -⟩ := List.cons.inj split
      simp at first
    · obtain ⟨rfl, -⟩ := List.cons.inj (List.cons.inj split).2
      simp at first
    · rw [List.cons_append, List.cons_append, List.cons.injEq, List.cons.injEq] at split
      obtain ⟨rfl, rfl, split⟩ := split
      rw [List.getLast?_cons_cons, List.getLast?_cons_cons] at first
      rw [opens_cons, opens_cons] at wide
      exact .inr ⟨z :: before, after, n, ⟨split, first, last⟩, wide⟩
  · rintro (misplaced | ⟨before, after, n, ⟨rfl, first, last⟩, wide⟩)
    · exact ⟨[], ms, 2, ⟨rfl, by simp, single⟩, .inr ⟨rfl, by simpa [Opens] using misplaced⟩⟩
    · cases before with
      | nil =>
        obtain ⟨k, rfl⟩ : ∃ k, n = k + 1 := ⟨n - 1, by have := two_le_of_wide wide; omega⟩
        simp [List.replicate_succ] at single
      | cons z before =>
        refine ⟨bare '*' :: bare '*' :: z :: before, after, n, ⟨rfl, ?_, last⟩, ?_⟩
        · rwa [List.getLast?_cons_cons, List.getLast?_cons_cons]
        · rwa [opens_cons, opens_cons]

theorem stray_of_three : Stray clear (bare '*' :: bare '*' :: bare '*' :: ms) := by
  have stars : ms.takeWhile (· = bare '*') =
      List.replicate (ms.takeWhile (· = bare '*')).length (bare '*') := by
    rw [List.eq_replicate_iff]
    exact ⟨rfl, fun x hx => by simpa using List.mem_takeWhile_imp hx⟩
  refine ⟨[], ms.dropWhile (· = bare '*'), (ms.takeWhile (· = bare '*')).length + 3,
    ⟨?_, by simp, ?_⟩, .inl (by omega)⟩
  · simp only [List.replicate_succ, List.nil_append, List.cons_append, ← stars,
      List.takeWhile_append_dropWhile]
  · intro h
    have := List.head?_dropWhile_not (· = bare '*') ms
    simp [h] at this

theorem dangles_cons (h : m ≠ bare '\\') : Dangles (m :: ms) ↔ Dangles ms := by
  cases ms with
  | nil => simpa [Dangles] using h
  | cons x ms => rw [Dangles, List.getLast?_cons_cons, Dangles]

/-! ## The first fault -/

/-- Whether a fault, or none, is the right one. -/
def Judges (clear : Bool) (ms : List Mark) : Option Fault → Prop
  | some .strayAnyPath => Stray clear ms
  | some .trailingEscape => ¬ Stray clear ms ∧ Dangles ms
  | some .unreadable => False
  | none => ¬ Stray clear ms ∧ ¬ Dangles ms

theorem Judges.congr {clear' : Bool} {ms' : List Mark} {fault : Option Fault}
    (h : Judges clear ms fault) (stray : Stray clear' ms' ↔ Stray clear ms)
    (dangles : Dangles ms' ↔ Dangles ms) : Judges clear' ms' fault := by
  unfold Judges at h ⊢
  split <;> simp_all

/-- A character that is no star and ends nothing is passed over. -/
theorem Judges.cons {fault : Option Fault} (h : Judges (m = bare '/') ms fault)
    (star : m ≠ bare '*') (escape : m ≠ bare '\\') : Judges clear (m :: ms) fault :=
  h.congr (stray_cons star) (dangles_cons escape)

theorem Judges.separators {fault : Option Fault} (h : Judges true ms fault) (more : Nat) :
    Judges clear (List.replicate (more + 1) (bare '/') ++ ms) fault := by
  induction more generalizing clear with
  | zero => exact Judges.cons (by simpa using h) (by decide) (by decide)
  | succ more ih =>
    rw [List.replicate_succ, List.cons_append]
    exact Judges.cons (by simpa using ih) (by decide) (by decide)

/-- A `**` in place is passed over. -/
theorem Judges.anyPath {fault : Option Fault} (closes : Closes ms)
    (single : ms.head? ≠ some (bare '*')) (h : Judges false ms fault) :
    Judges true (bare '*' :: bare '*' :: ms) fault := by
  refine h.congr ?_ ((dangles_cons (by decide)).trans (dangles_cons (by decide)))
  rw [stray_pair single]
  simp [closes]

theorem marks_separators (more : Nat) (rest : List Char) :
    marks false ('/' :: (List.replicate more '/' ++ rest)) =
      List.replicate (more + 1) (bare '/') ++ marks false rest := by
  induction more with
  | zero => exact marks_of_ne (by decide) rest
  | succ more ih =>
    rw [List.replicate_succ, List.cons_append, marks_of_ne (by decide), ih]
    rfl

theorem closes_marks {rest : List Char} :
    Closes (marks false rest) ↔ rest = [] ∨ rest.head? = some '/' := by
  cases rest <;> simp [Closes, marks, bare]

theorem stray_of_misplaced {rest : List Char}
    (h : ¬ (clear = true ∧ Closes (marks false rest))) :
    Stray clear (bare '*' :: bare '*' :: marks false rest) := by
  by_cases single : rest.head? = some '*'
  · obtain ⟨tail, rfl⟩ : ∃ tail, rest = '*' :: tail := by
      cases rest <;> simp_all
    rw [marks_of_ne (by decide)]
    exact stray_of_three
  · exact (stray_pair (head?_marks single)).mpr (.inl h)

theorem firstFault_misplaced (ts : List Token) :
    firstFault false (.anyPath :: ts) = some .strayAnyPath := by
  rcases ts with _ | ⟨t, ts⟩
  · rfl
  · cases t <;> rfl

theorem Cut.judges_anyPath {rest : List Char} {ts : List Token} (cut : Cut rest ts)
    (behind : ∀ clear, Judges clear (marks false rest) (firstFault clear ts)) (clear : Bool) :
    Judges clear (bare '*' :: bare '*' :: marks false rest)
      (firstFault clear (.anyPath :: ts)) := by
  cases clear with
  | false =>
    rw [firstFault_misplaced]
    exact stray_of_misplaced (by simp)
  | true =>
    cases cut with
    | done => exact .anyPath (.inl rfl) (by simp [marks]) (behind false)
    | @separator more rest ts last cut =>
      -- The separators behind the `**` make it one in place, and a `**` may follow them.
      have next : marks false ('/' :: (List.replicate more '/' ++ rest)) =
          bare '/' :: (List.replicate more (bare '/') ++ marks false rest) :=
        marks_separators more rest
      refine .anyPath ?_ ?_ (behind false) <;> simp [next, Closes, bare]
    | ordinary c plain cut =>
      show Stray true _
      rw [notMem_special] at plain
      exact stray_of_misplaced (by simp [closes_marks, plain])
    | _ =>
      show Stray true _
      exact stray_of_misplaced (by simp [closes_marks])

/-- The first fault of the tokens is the one that the characters have. -/
theorem Cut.judges {glob : List Char} {ts : List Token} (cut : Cut glob ts) (clear : Bool) :
    Judges clear (marks false glob) (firstFault clear ts) := by
  induction cut generalizing clear with
  | done => exact ⟨not_stray_nil, by simp [Dangles, marks]⟩
  | loneEscape =>
    refine ⟨fun stray => ?_, rfl⟩
    exact not_stray_nil ((stray_cons (by decide)).mp stray)
  | escaped c cut ih =>
    rw [marks_escape]
    have next : Judges (bare '\\' = bare '/') (⟨c, true⟩ :: marks false _) (firstFault false _) :=
      Judges.cons (by simpa [bare] using ih false) (by simp [bare]) (by simp [bare])
    -- The backslash is not the last character, as the one that it protects stands behind it.
    exact next.congr (stray_cons (by decide)) (by simp [Dangles, List.getLast?_cons_cons])
  | anyPath cut ih =>
    rw [marks_of_ne (by decide), marks_of_ne (by decide)]
    exact cut.judges_anyPath ih clear
  | anyRun single cut ih =>
    rw [marks_of_ne (by decide)]
    exact (ih false).congr (stray_star (head?_marks single)) (dangles_cons (by decide))
  | anyChar cut ih =>
    rw [marks_of_ne (by decide)]
    exact Judges.cons (ih false) (by decide) (by decide)
  | separator more last cut ih =>
    rw [marks_separators]
    exact (ih true).separators more
  | ordinary c plain cut ih =>
    rw [notMem_special] at plain
    rw [marks_of_ne plain.1]
    show Judges clear _ (firstFault false _)
    have next : decide (bare c = bare '/') = false := by simp [bare, plain]
    exact Judges.cons (next ▸ ih false) (by simp [bare, plain]) (by simp [bare, plain])

/-- Nothing is wrong with the tokens where nothing is wrong with the characters. -/
theorem firstFault_tokens_eq_none {glob : List Char} :
    firstFault true (tokens glob) = none ↔
      ¬ Stray true (marks false glob) ∧ ¬ Dangles (marks false glob) := by
  have judged := (cut_tokens glob).judges true
  cases first : firstFault true (tokens glob) with
  | none =>
    rw [first] at judged
    exact iff_of_true rfl judged
  | some fault =>
    rw [first] at judged
    refine iff_of_false (by simp) fun sound => ?_
    cases fault with
    | strayAnyPath => exact sound.1 judged
    | trailingEscape => exact sound.2 judged.2
    | unreadable => exact judged

end Glob

namespace Pattern

open Glob

theorem compile_eq_error_iff {glob : String} {e : GlobError} :
    compile glob = .error e ↔
      ∃ fault, firstFault true (tokens glob.toList) = some fault ∧ e = ⟨glob, fault⟩ := by
  simp only [compile, read_translate]
  cases first : firstFault true (tokens glob.toList) <;> simp [eq_comm]

theorem exists_compile_eq_ok_iff {glob : String} :
    (∃ p, compile glob = .ok p) ↔ firstFault true (tokens glob.toList) = none := by
  simp only [compile, read_translate]
  cases first : firstFault true (tokens glob.toList) <;> simp

/-- A glob is refused for a `**` out of place, then for a backslash at the end, and for nothing
else: what it is translated to can always be read. To try a glob out gives the same. -/
theorem compile_accepts (glob : String) :
    (∀ e, compile glob = .error e ↔
        e = ⟨glob, .strayAnyPath⟩ ∧ Stray true (marks false glob.toList) ∨
          e = ⟨glob, .trailingEscape⟩ ∧ ¬ Stray true (marks false glob.toList) ∧
            Dangles (marks false glob.toList)) ∧
      ((∃ p, compile glob = .ok p) ↔
        ¬ Stray true (marks false glob.toList) ∧ ¬ Dangles (marks false glob.toList)) ∧
      (Regex.read (write (Glob.translate (tokens glob.toList)))).isSome ∧
      (tryCompile glob).glob = glob ∧
      (∀ e, (tryCompile glob).error? = some e ↔ compile glob = .error e) ∧
      (∀ p, (tryCompile glob).pattern? = some p ↔ compile glob = .ok p) ∧
      ((tryCompile glob).ok ↔ ∃ p, compile glob = .ok p) := by
  have judged := (cut_tokens glob.toList).judges true
  refine ⟨fun e => ?_, ?_, by simp [read_translate], rfl, fun e => ?_, fun p => ?_, ?_⟩
  · rw [compile_eq_error_iff]
    cases first : firstFault true (tokens glob.toList) with
    | none =>
      obtain ⟨placed, closed⟩ : ¬ Stray true _ ∧ ¬ Dangles _ := by rwa [first] at judged
      simp [placed, closed]
    | some fault =>
      rw [first] at judged
      cases fault with
      | strayAnyPath =>
        have stray : Stray true (marks false glob.toList) := judged
        simp [stray]
      | trailingEscape =>
        obtain ⟨placed, open_⟩ : ¬ Stray true _ ∧ Dangles _ := judged
        simp [placed, open_]
      | unreadable => exact judged.elim
  · rw [exists_compile_eq_ok_iff, firstFault_tokens_eq_none]
  all_goals
    simp only [tryCompile, GlobResult.ok, GlobResult.error?, GlobResult.pattern?]
    cases compile glob <;> simp [Except.toOption]

end Pattern

end TabAudit
