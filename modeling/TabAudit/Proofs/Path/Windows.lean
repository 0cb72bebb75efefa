import Mathlib
import TabAudit.Proofs.Path.Relative
import TabAudit.Proofs.Text.Case

/-!
# Windows paths below a base

What is left of a path below a base has only slashes between its names, and is empty just where both
paths count as the same. It begins with a slash in one case alone: the base is a drive without a
root, and the path has the root.
-/

namespace TabAudit.Path

/-! ## How paths begin -/

/-- What is read in front of the names of a text. A root is a backslash; a drive that none follows
has no backslash or three of them, and no drive has two. -/
structure Begins (s drive root rest : List Char) : Prop where
  slash : root = [] ∨ root = ['\\']
  notTwo : drive.count '\\' ≠ 2
  loose : root = [] → drive.count '\\' = 0 ∨ drive.count '\\' = 3
  inside : ∀ c ∈ rest, c = '\\' ∨ c ∈ s

theorem readExtended_spec {s extended rest : List Char} (h : readExtended s = (extended, rest)) :
    (extended = [] ∨ extended.count '\\' = 3) ∧ ∀ c ∈ rest, c = '\\' ∨ c ∈ s := by
  unfold readExtended at h
  split at h
  · cases h
    refine ⟨.inr rfl, fun c member => ?_⟩
    simp only [List.mem_cons] at member ⊢
    tauto
  · cases h
    refine ⟨.inr rfl, fun c member => ?_⟩
    simp only [List.mem_cons]
    tauto
  · cases h
    exact ⟨.inl rfl, fun c member => .inr member⟩

/-- A text is cut in front of its first backslash. -/
theorem span_backslash {s front back : List Char} (h : s.span (· ≠ '\\') = (front, back)) :
    s = front ++ back ∧ ∀ c rest, back = c :: rest → c = '\\' := by
  rw [List.span_eq_takeWhile_dropWhile, Prod.mk.injEq] at h
  obtain ⟨rfl, rfl⟩ := h
  refine ⟨(List.takeWhile_append_dropWhile).symm, fun c rest cut => ?_⟩
  have first := List.head?_dropWhile_not (· ≠ '\\') s
  rw [cut] at first
  simpa using first

theorem readShare_eq_some {s share tail : List Char} (h : readShare s = some (share, tail)) :
    1 ≤ share.count '\\' ∧ tail ⊆ s := by
  unfold readShare at h
  split at h
  · cases h
  · rename_i machine cut
    cases h
    obtain ⟨whole, -⟩ := span_backslash cut
    rw [whole]
    simp
  · rename_i machine sep rest _ cut
    obtain ⟨whole, first⟩ := span_backslash cut
    obtain rfl := first sep rest rfl
    split at h
    · cases h
    · rename_i mount back _ cut'
      cases h
      obtain ⟨whole', -⟩ := span_backslash cut'
      rw [whole, whole']
      refine ⟨by simp; omega, fun c member => ?_⟩
      have inBack := List.mem_of_mem_drop member
      simp [inBack]

theorem readLetter_spec (s : List Char) :
    (readLetter s).1.count '\\' = 0 ∧ (readLetter s).2 ⊆ s := by
  unfold readLetter
  split
  · rename_i c rest
    split
    · rename_i letter
      have other : c ≠ '\\' := by
        rintro rfl
        exact absurd letter (by decide)
      exact ⟨by simp [other], fun d member => by simp [member]⟩
    · simp
  · simp

theorem begins_readAnchor (s : List Char) :
    Begins s (readAnchor s).1 (readAnchor s).2.1 (readAnchor s).2.2 := by
  unfold readAnchor
  rcases extends_ : readExtended s with ⟨extended, t⟩
  obtain ⟨prefixed, inside⟩ := readExtended_spec extends_
  simp only
  split
  · -- A share has a backslash of its own behind the two in front of it.
    rename_i drive tail shared
    split at shared
    · rename_i rest
      split at shared
      · cases shared
      obtain ⟨⟨share, tail'⟩, found, same⟩ := Option.map_eq_some_iff.mp shared
      obtain ⟨rfl, rfl⟩ := Prod.mk.inj same
      obtain ⟨backslash, sub⟩ := readShare_eq_some found
      refine ⟨.inr rfl, ?_, by simp, fun c member => inside c (by simp [sub member])⟩
      rcases prefixed with rfl | three
      · simp only [List.isEmpty_nil, if_true, List.count_cons_self]
        omega
      · have some_ : extended.isEmpty = false := by
          cases extended <;> simp_all
        simp only [some_, Bool.false_eq_true, if_false, List.count_append, List.count_cons_self]
        omega
    · cases shared
  · obtain ⟨none, sub⟩ := readLetter_spec t
    rcases letters : readLetter t with ⟨letter, rest⟩
    rw [letters] at none sub
    have total : (extended ++ letter).count '\\' = extended.count '\\' := by
      rw [List.count_append, none, Nat.add_zero]
    have count : (extended ++ letter).count '\\' = 0 ∨ (extended ++ letter).count '\\' = 3 := by
      rw [total]
      exact prefixed.imp_left fun empty => by rw [empty, List.count_nil]
    have notTwo : (extended ++ letter).count '\\' ≠ 2 := by omega
    simp only at sub ⊢
    split
    · rename_i tail
      exact ⟨.inr rfl, notTwo, by simp, fun c member =>
        inside c (sub (List.mem_cons_of_mem _ (List.dropWhile_subset _ member)))⟩
    · exact ⟨.inl rfl, notTwo, fun _ => count, fun c member => inside c (sub member)⟩

/-! ## Windows paths -/

/-- What holds of every Windows path that is read from a text. -/
structure Sound (p : Path) : Prop where
  slash : p.root = "" ∨ p.root = "\\"
  notTwo : p.drive.toList.count '\\' ≠ 2
  loose : p.root = "" → p.drive.toList.count '\\' = 0 ∨ p.drive.toList.count '\\' = 3
  names : ∀ name ∈ p.names, IsName '\\' name ∧ '/' ∉ name.toList

theorem sound_readWindows (s : String) : Sound (readWindows s) := by
  unfold readWindows
  rcases anchor : readAnchor (s.toList.map fun c => if c = '/' then '\\' else c) with
    ⟨drive, root, rest⟩
  have begins := begins_readAnchor (s.toList.map fun c => if c = '/' then '\\' else c)
  rw [anchor] at begins
  refine ⟨?_, ?_, fun loose => ?_, fun name member => ?_⟩
  · rcases begins.slash with rfl | rfl
    · exact .inl rfl
    · exact .inr rfl
  · simpa only [String.toList_ofList] using begins.notTwo
  · rw [String.toList_ofList]
    exact begins.loose (String.ofList_injective loose)
  · obtain ⟨piece, proper⟩ := mem_readNames member
    refine ⟨proper, fun slash => ?_⟩
    rcases begins.inside '/' ((mem_splitAtEach piece).2 slash) with same | there
    · exact absurd same (by decide)
    · obtain ⟨c, -, becomes⟩ := List.mem_map.mp there
      split at becomes
      · exact absurd becomes (by decide)
      · contradiction

/-- The parts by which paths are told apart: the drive and the root are one of them. -/
def parts (p : Path) : List String :=
  if p.drive ++ p.root = "" then p.names else (p.drive ++ p.root) :: p.names

/-- Whether two paths count as the same. -/
def Same (style : Style) (p q : Path) : Prop := p.parts.map style.fold = q.parts.map style.fold

section Steps

variable {p q : Path}

theorem steps_of_loose (loose : p.root = "") :
    p.steps = if p.drive = "" then p.names else p.drive :: p.names := by
  unfold Path.steps
  by_cases none : p.drive = "" <;> simp [loose, none]

theorem parts_of_loose (loose : p.root = "") : p.parts = p.steps := by
  rw [steps_of_loose loose, parts, loose, String.append_empty]

theorem steps_of_rooted (rooted : p.root = "\\") :
    p.steps = p.drive :: "\\" :: p.names := by
  unfold Path.steps
  rw [rooted, if_pos (by decide)]

theorem parts_of_rooted (rooted : p.root = "\\") :
    p.parts = (p.drive ++ "\\") :: p.names := by
  rw [parts, rooted, if_neg]
  intro none
  have size := congrArg String.length none
  simp at size

/-- Texts that are the same but for case have backslashes alike. -/
theorem count_of_fold {a b : String} (h : Style.windows.fold a = Style.windows.fold b) :
    a.toList.count '\\' = b.toList.count '\\' := by
  rw [← count_lowerCase a, ← count_lowerCase b]
  exact congrArg (fun s => s.toList.count '\\') h

/-- A name is no root, not even but for case. -/
theorem IsName.fold_ne_root {name : String} (h : IsName '\\' name) :
    Style.windows.fold name ≠ Style.windows.fold "\\" := by
  intro same
  have one := count_of_fold same
  rw [List.count_eq_zero_of_not_mem h.free] at one
  exact absurd one (by decide)

theorem second_of_rooted (rooted : p.root = "\\") :
    (p.steps.map Style.windows.fold)[1]? = some (Style.windows.fold "\\") := by
  rw [steps_of_rooted rooted]
  rfl

/-- Behind the first step of a path without a root come names. -/
theorem Sound.second_of_loose (hp : p.Sound) (loose : p.root = "") :
    (p.steps.map Style.windows.fold)[1]? ≠ some (Style.windows.fold "\\") := by
  have name (k : Nat) : (p.names.map Style.windows.fold)[k]? ≠ some (Style.windows.fold "\\") := by
    intro root
    rw [List.getElem?_map, Option.map_eq_some_iff] at root
    obtain ⟨name, there, same⟩ := root
    exact (hp.names name (List.mem_of_getElem? there)).1.fold_ne_root same
  rw [steps_of_loose loose]
  split
  · exact name 1
  · exact name 0

/-- Two paths whose second steps are the same have both a root, or neither has. -/
theorem Sound.loose_iff (hp : p.Sound) (hq : q.Sound)
    (h : (p.steps.map Style.windows.fold)[1]? = (q.steps.map Style.windows.fold)[1]?) :
    p.root = "" ↔ q.root = "" := by
  rcases hp.slash with loose | rooted <;> rcases hq.slash with loose' | rooted'
  · exact iff_of_true loose loose'
  · exact absurd (h.trans (second_of_rooted rooted')) (hp.second_of_loose loose)
  · exact absurd (h.symm.trans (second_of_rooted rooted)) (hq.second_of_loose loose')
  · rw [rooted, rooted']

/-- No drive that stands alone is a drive with the root behind it. -/
theorem Sound.parts_ne (hp : p.Sound) (hq : q.Sound) (rooted : p.root = "\\")
    (loose : q.root = "") : ¬ Same .windows p q := by
  intro same
  rw [Same, parts_of_rooted rooted, parts_of_loose loose, steps_of_loose loose] at same
  have behind : (p.drive ++ "\\").toList.count '\\' = p.drive.toList.count '\\' + 1 := by
    rw [String.toList_append, List.count_append]
    rfl
  have notTwo := hp.notTwo
  split at same
  · rcases names : q.names with _ | ⟨first, more⟩
    · simp [names] at same
    · rw [names, List.map_cons, List.map_cons, List.cons.injEq] at same
      have none := count_of_fold same.1
      rw [behind, List.count_eq_zero_of_not_mem (hq.names first (by simp [names])).1.free] at none
      omega
  · rw [List.map_cons, List.map_cons, List.cons.injEq] at same
    have drives := count_of_fold same.1
    have count := hq.loose loose
    omega

/-- Paths count as the same where the steps to them do. -/
theorem Sound.same_iff (hp : p.Sound) (hq : q.Sound) :
    Same .windows p q ↔ p.steps.map Style.windows.fold = q.steps.map Style.windows.fold := by
  rcases hp.slash with loose | rooted <;> rcases hq.slash with loose' | rooted'
  · rw [Same, parts_of_loose loose, parts_of_loose loose']
  · refine iff_of_false (fun same => hq.parts_ne hp rooted' loose same.symm) fun same => ?_
    exact hp.second_of_loose loose (same ▸ second_of_rooted rooted')
  · refine iff_of_false (hp.parts_ne hq rooted loose') fun same => ?_
    exact hq.second_of_loose loose' (same ▸ second_of_rooted rooted)
  · rw [Same, parts_of_rooted rooted, parts_of_rooted rooted', steps_of_rooted rooted,
      steps_of_rooted rooted']
    simp [Style.fold, lowerCase_snoc, String.append_left_inj]

end Steps

/-! ## What is left -/

section Left

variable {base path : Path}

/-- What is left of a path below a base: what follows the steps of the base, or the root and the
names of the path if the base is a drive and nothing more. -/
theorem relativeTo_eq_ok {style : Style} {rest : Path} (h : relativeTo style base path = .ok rest) :
    isBelow style base path = true ∧ ((base.steps.length = 1 ∧ path.root ≠ "" ∧
        rest = ⟨"", path.root, path.steps.drop 2⟩) ∨
      (¬ (base.steps.length = 1 ∧ path.root ≠ "") ∧
        rest = ofNames (path.steps.drop base.steps.length))) := by
  unfold relativeTo at h
  split at h
  · rename_i below
    refine ⟨below, ?_⟩
    simp only at h
    split at h
    · rename_i alone
      simp only [Bool.and_eq_true, decide_eq_true_eq] at alone
      cases h
      exact .inl ⟨alone.1, alone.2, by rw [List.drop_drop, alone.1]⟩
    · rename_i alone
      simp only [Bool.and_eq_true, decide_eq_true_eq] at alone
      cases h
      exact .inr ⟨alone, rfl⟩
  · cases h

/-- What follows the steps of a base are names, unless the base is a drive and nothing more. -/
theorem Sound.drop_steps_subset (hp : path.Sound) (below : isBelow .windows base path = true)
    (alone : ¬ (base.steps.length = 1 ∧ path.root ≠ "")) :
    path.steps.drop base.steps.length ⊆ path.names := by
  obtain ⟨start, -⟩ := isBelow_iff.mp below
  rcases hp.slash with loose | rooted
  · rw [steps_of_loose loose]
    split
    · exact List.drop_subset _ _
    · rename_i drive
      cases steps : base.steps with
      | nil => exact absurd (start steps).2 drive
      | cons first more =>
        rw [List.length_cons, List.drop_succ_cons]
        exact List.drop_subset _ _
  · have root : path.root ≠ "" := by
      rw [rooted]
      decide
    rw [steps_of_rooted rooted]
    rcases steps : base.steps with _ | ⟨first, _ | ⟨second, more⟩⟩
    · exact absurd (start steps).1 root
    · exact absurd ⟨by rw [steps]; rfl, root⟩ alone
    · rw [List.length_cons, List.length_cons, List.drop_succ_cons, List.drop_succ_cons]
      exact List.drop_subset _ _

/-- A path has a root where its base has one, unless the base is a drive and nothing more. -/
theorem Sound.loose_of_below (hb : base.Sound) (hp : path.Sound)
    (below : isBelow .windows base path = true)
    (alone : ¬ (base.steps.length = 1 ∧ path.root ≠ "")) (loose : base.root = "") :
    path.root = "" := by
  obtain ⟨start, back, whole⟩ := isBelow_iff.mp below
  by_contra root
  rcases steps : base.steps with _ | ⟨first, _ | ⟨second, more⟩⟩
  · exact root (start steps).1
  · exact alone ⟨by rw [steps]; rfl, root⟩
  · refine root ((hb.loose_iff hp ?_).mp loose)
    rw [← whole, List.getElem?_append_left (by simp [steps])]

/-- Nothing is left just where the steps to both paths are the same but for case. -/
theorem drop_steps_eq_nil_iff {style : Style} (below : isBelow style base path = true) :
    path.steps.drop base.steps.length = [] ↔
      base.steps.map style.fold = path.steps.map style.fold := by
  obtain ⟨-, front⟩ := isBelow_iff.mp below
  rw [List.drop_eq_nil_iff]
  constructor
  · intro short
    exact front.eq_of_length_le (by simpa using short)
  · intro same
    have sizes := congrArg List.length same
    simp only [List.length_map] at sizes
    omega

end Left

/-- What is left of a path as a text. -/
def slashed (rest : Path) : String :=
  String.ofList ((rest.write '\\').toList.map fun c => if c = '\\' then '/' else c)

theorem backslash_notMem_slashed (rest : Path) : '\\' ∉ (slashed rest).toList := by
  rw [slashed, String.toList_ofList, List.mem_map]
  rintro ⟨c, -, becomes⟩
  split at becomes
  · exact absurd becomes (by decide)
  · contradiction

/-- A row of names does not begin with a slash. -/
theorem head?_slashed_ofNames {names : List String}
    (h : ∀ name ∈ names, IsName '\\' name ∧ '/' ∉ name.toList) :
    (slashed (ofNames names)).toList.head? ≠ some '/' := by
  have row : (ofNames names).write '\\' = joinNames '\\' names := String.empty_append
  rw [slashed, String.toList_ofList, row, List.head?_map,
    head?_joinNames fun name member => (h name member).1.some_]
  intro slash
  obtain ⟨c, first, becomes⟩ := Option.map_eq_some_iff.mp slash
  obtain ⟨name, head, start⟩ := Option.bind_eq_some_iff.mp first
  obtain ⟨proper, noSlash⟩ := h name (List.mem_of_mem_head? head)
  have inName : c ∈ name.toList := List.mem_of_mem_head? start
  split at becomes
  · rename_i backslash
    exact proper.free (backslash ▸ inName)
  · exact noSlash (becomes ▸ inName)

theorem slashed_ofNames_eq_empty_iff {names : List String} (h : ∀ name ∈ names, name ≠ "") :
    slashed (ofNames names) = "" ↔ names = [] := by
  have row : (ofNames names).write '\\' = joinNames '\\' names := String.empty_append
  have nothing : joinNames '\\' names = "" ↔ names = [] := joinNames_eq_empty_iff h
  rw [← nothing, slashed, row, ← String.toList_eq_nil_iff, String.toList_ofList,
    List.map_eq_nil_iff, String.toList_eq_nil_iff]

/-- What is left of a Windows path has no backslash, and is empty just where both paths count as the
same. It begins with a slash just where the path has a root that its base, a drive and nothing more,
has not. -/
theorem normalize_windows {base path text : String} (h : normalize .windows base path = .ok text) :
    '\\' ∉ text.toList ∧
      (text = "" ↔ Same .windows (readWindows base) (readWindows path)) ∧
      (text.toList.head? = some '/' ↔
        (readWindows base).root = "" ∧ (readWindows path).root ≠ "") := by
  have hb := sound_readWindows base
  have hp := sound_readWindows path
  unfold normalize at h
  split at h
  · cases h
  rename_i rest left
  replace left : relativeTo .windows (readWindows base) (readWindows path) = .ok rest := left
  rw [if_neg (by decide)] at h
  obtain rfl : slashed rest = text := Except.ok.inj h
  refine ⟨backslash_notMem_slashed rest, ?_⟩
  obtain ⟨below, ⟨single, root, rfl⟩ | ⟨alone, rfl⟩⟩ := relativeTo_eq_ok left
  -- Either the base is one step, and the root of the path is still to come, or names are left.
  · have rooted : (readWindows path).root = "\\" := hp.slash.resolve_left root
    have loose : (readWindows base).root = "" := by
      refine hb.slash.resolve_right fun rooted => ?_
      rw [steps_of_rooted rooted] at single
      simp at single
    have slash : (slashed ⟨"", (readWindows path).root,
        (readWindows path).steps.drop 2⟩).toList.head? = some '/' := by
      rw [rooted, slashed, write, String.toList_ofList]
      simp
    refine ⟨iff_of_false (fun none => ?_) fun same => ?_, iff_of_true slash ⟨loose, root⟩⟩
    · rw [none] at slash
      cases slash
    · have sizes := congrArg List.length ((hb.same_iff hp).mp same)
      rw [List.length_map, List.length_map, single, steps_of_rooted rooted] at sizes
      simp at sizes
  · have names : ∀ name ∈ (readWindows path).steps.drop (readWindows base).steps.length,
        IsName '\\' name ∧ '/' ∉ name.toList :=
      fun name member => hp.names name (hp.drop_steps_subset below alone member)
    refine ⟨?_, iff_of_false (head?_slashed_ofNames names) fun both =>
      both.2 (hb.loose_of_below hp below alone both.1)⟩
    rw [slashed_ofNames_eq_empty_iff fun name member => (names name member).1.some_,
      drop_steps_eq_nil_iff below, ← hb.same_iff hp]

/-- What is left below a share keeps its case, and it is not empty. -/
theorem normalize_windows_share :
    normalize .windows "//srv/Share/A" "\\\\SRV\\share\\a\\./B\\c" = .ok "B/c" ∧
      "B/c".toList.head? ≠ some '/' ∧
      ¬ Same .windows (readWindows "//srv/Share/A") (readWindows "\\\\SRV\\share\\a\\./B\\c") := by
  have left : normalize .windows "//srv/Share/A" "\\\\SRV\\share\\a\\./B\\c" = .ok "B/c" := by cbv
  obtain ⟨-, empty, slash⟩ := normalize_windows left
  exact ⟨left, fun start => absurd (slash.mp start).1 (by cbv),
    fun same => absurd (empty.mpr same) (by decide)⟩

/-- What is left of a path with a root below its drive alone begins with a slash. -/
theorem normalize_windows_drive :
    normalize .windows "C:" "C:\\x" = .ok "/x" ∧ "/x".toList.head? = some '/' :=
  ⟨by cbv, rfl⟩

end TabAudit.Path
