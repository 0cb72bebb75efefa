import Mathlib
import TabAudit.Path.Relative
import TabAudit.Proofs.Text.Pieces

/-!
# What is left of a path below a base

The names of a path are what stands between its slashes, as it stands there. Below a base is left
what follows the names of the base, in the one way to write it: joined to the base it is the path
again, so no two paths below a base leave the same.
-/

namespace TabAudit.Path

variable {sep : Char} {name text : String} {names rest : List String}

/-! ## Names -/

/-- Whether a text stands for something where it stands between separators. -/
structure IsName (sep : Char) (name : String) : Prop where
  some_ : name ≠ ""
  noDot : name ≠ "."
  free : sep ∉ name.toList

theorem mem_readNames {s : List Char} (h : name ∈ readNames sep s) :
    name.toList ∈ splitAtEach sep s ∧ IsName sep name := by
  obtain ⟨piece, kept, rfl⟩ := List.mem_map.mp h
  obtain ⟨member, proper⟩ := List.mem_filter.mp kept
  simp only [Bool.and_eq_true, decide_eq_true_eq] at proper
  rw [String.toList_ofList]
  refine ⟨member, fun none => proper.1 (String.ofList_injective none),
    fun dot => proper.2 (String.ofList_injective dot), ?_⟩
  rw [String.toList_ofList]
  exact (mem_splitAtEach member).1

/-- Separators in front stand between no names. -/
theorem readNames_dropWhile (s : List Char) :
    readNames sep (s.dropWhile (· = sep)) = readNames sep s := by
  induction s with
  | nil => rfl
  | cons c s ih =>
    by_cases h : c = sep
    · rw [List.dropWhile_cons_of_pos (by simpa using h), ih]
      simp [readNames, splitAtEach, h]
    · rw [List.dropWhile_cons_of_neg (by simpa using h)]

theorem splitAtEach_joinNames (some_ : names ≠ []) (free : ∀ name ∈ names, sep ∉ name.toList) :
    splitAtEach sep (joinNames sep names).toList = names.map String.toList := by
  rw [joinNames, String.toList_ofList]
  exact splitAtEach_joinWith (by simpa using some_) (by simpa using free)

theorem readNames_joinNames (h : ∀ name ∈ names, IsName sep name) :
    readNames sep (joinNames sep names).toList = names := by
  by_cases none : names = []
  · rw [none]
    rfl
  have kept : (names.map String.toList).filter (fun piece => piece ≠ [] && piece ≠ ['.']) =
      names.map String.toList := by
    refine List.filter_eq_self.mpr fun piece member => ?_
    obtain ⟨name, named, rfl⟩ := List.mem_map.mp member
    have noDot : name.toList ≠ ['.'] := fun dot =>
      (h name named).noDot (String.toList_injective dot)
    simp [String.toList_eq_nil_iff, (h name named).some_, noDot]
  rw [readNames, splitAtEach_joinNames none fun name member => (h name member).free, kept,
    List.map_map]
  simp [Function.comp_def]

/-! ## Names in a row -/

theorem head?_joinNames (h : ∀ name ∈ names, name ≠ "") :
    (joinNames sep names).toList.head? = names.head?.bind fun name => name.toList.head? := by
  rw [joinNames, String.toList_ofList]
  cases names with
  | nil => rfl
  | cons first more =>
    have some_ : first.toList ≠ [] := mt String.toList_eq_nil_iff.mp (h first (by simp))
    cases more with
    | nil => rfl
    | cons next more => simp [joinWith, List.head?_append_of_ne_nil _ some_]

theorem getLast?_joinNames (h : ∀ name ∈ names, name ≠ "") :
    (joinNames sep names).toList.getLast? =
      names.getLast?.bind fun name => name.toList.getLast? := by
  rw [joinNames, String.toList_ofList]
  induction names with
  | nil => rfl
  | cons first more ih =>
    cases more with
    | nil => rfl
    | cons next more =>
      have later := ih fun name member => h name (by simp [member])
      have some_ : joinWith sep ((next :: more).map String.toList) ≠ [] := by
        have named : next.toList ≠ [] := mt String.toList_eq_nil_iff.mp (h next (by simp))
        cases more with
        | nil => exact named
        | cons => simp [joinWith]
      simp only [List.map_cons, joinWith] at later some_ ⊢
      rw [List.getLast?_append_of_ne_nil _ (by simp), List.getLast?_cons_of_ne_nil some_, later]
      simp

theorem joinNames_eq_empty_iff (h : ∀ name ∈ names, name ≠ "") :
    joinNames sep names = "" ↔ names = [] := by
  refine ⟨fun empty => ?_, fun none => none ▸ rfl⟩
  have start : (joinNames sep names).toList.head? = _ := head?_joinNames h
  cases names with
  | nil => rfl
  | cons first more =>
    have named : first.toList ≠ [] := mt String.toList_eq_nil_iff.mp (h first (by simp))
    rw [empty] at start
    exact absurd (List.head?_eq_none_iff.mp start.symm) named

/-- Whether a text is a row of names, with one slash between each two and none at its ends. -/
structure Tidy (text : String) : Prop where
  front : text.toList.head? ≠ some '/'
  back : text.toList.getLast? ≠ some '/'
  names : text ≠ "" → ∀ piece ∈ splitAtEach '/' text.toList, piece ≠ [] ∧ piece ≠ ['.']

theorem tidy_joinNames (h : ∀ name ∈ names, IsName '/' name) : Tidy (joinNames '/' names) := by
  have some_ (name : String) (member : name ∈ names) := (h name member).some_
  refine ⟨?_, ?_, fun proper piece member => ?_⟩
  · rw [head?_joinNames some_]
    intro slash
    obtain ⟨name, first, start⟩ := Option.bind_eq_some_iff.mp slash
    exact (h name (List.mem_of_mem_head? first)).free (List.mem_of_mem_head? start)
  · rw [getLast?_joinNames some_]
    intro slash
    obtain ⟨name, last, ending⟩ := Option.bind_eq_some_iff.mp slash
    exact (h name (List.mem_of_getLast? last)).free (List.mem_of_getLast? ending)
  · rw [splitAtEach_joinNames (mt (joinNames_eq_empty_iff some_).mpr proper)
      fun name member => (h name member).free] at member
    obtain ⟨name, named, rfl⟩ := List.mem_map.mp member
    exact ⟨mt String.toList_eq_nil_iff.mp (some_ name named),
      fun dot => (h name named).noDot (String.toList_injective dot)⟩

/-! ## Reading with slashes -/

theorem names_read (s : String) : (read s).names = readNames '/' s.toList :=
  readNames_dropWhile s.toList

theorem isName_of_mem_read {s : String} (h : name ∈ (read s).names) : IsName '/' name :=
  (mem_readNames h).2

/-- A row of names is read as these, behind no root. -/
theorem read_joinNames (h : ∀ name ∈ names, IsName '/' name) :
    read (joinNames '/' names) = ofNames names := by
  have start : (joinNames '/' names).toList.dropWhile (· = '/') = (joinNames '/' names).toList := by
    have front := (tidy_joinNames h).front
    cases text : (joinNames '/' names).toList with
    | nil => rfl
    | cons c rest =>
      rw [text] at front
      exact List.dropWhile_cons_of_neg (by simpa using front)
  simp only [read, start, Nat.sub_self, readNames_joinNames h, ofNames]

/-! ## What lies below a base -/

variable {style : Style} {base path : Path}

theorem isBelow_iff : isBelow style base path = true ↔
    (base.steps = [] → path.root = "" ∧ path.drive = "") ∧
      base.steps.map style.fold <+: path.steps.map style.fold := by
  unfold isBelow
  by_cases none : base.steps = []
  · simp [none]
  · rw [if_neg none, List.prefix_iff_eq_take, List.length_map, ← List.map_take, decide_eq_true_iff,
      eq_comm]
    exact ⟨fun same => ⟨fun empty => absurd empty none, same⟩, fun both => both.2⟩

/-- Whether a path has no drive; without one, no step to it is empty but the first. -/
structure Driveless (p : Path) : Prop where
  drive : p.drive = ""
  names : ∀ name ∈ p.names, name ≠ ""

theorem driveless_read (s : String) : Driveless (read s) :=
  ⟨rfl, fun _ member => (isName_of_mem_read member).some_⟩

theorem Driveless.steps (h : path.Driveless) :
    path.steps = if path.root = "" then path.names else "" :: path.root :: path.names := by
  unfold Path.steps
  rw [h.drive]
  by_cases rooted : path.root = "" <;> simp [rooted]

/-- A path lies below a base with the same root whose names it begins with. -/
theorem isBelow_posix_iff (hb : base.Driveless) (hp : path.Driveless) :
    isBelow .posix base path = true ↔ base.root = path.root ∧ base.names <+: path.names := by
  have fold (names : List String) : names.map Style.posix.fold = names :=
    List.map_id'' (fun _ => rfl) names
  rw [isBelow_iff, fold, fold, hb.steps, hp.steps, hp.drive]
  by_cases baseRoot : base.root = "" <;> by_cases pathRoot : path.root = ""
  · simp [baseRoot, pathRoot]
  · rw [if_pos baseRoot, if_neg pathRoot, baseRoot]
    refine iff_of_false ?_ fun both => pathRoot both.1.symm
    rintro ⟨start, front⟩
    cases names : base.names with
    | nil => exact pathRoot (start names).1
    | cons name more =>
      rw [names, List.cons_prefix_cons] at front
      exact hb.names name (by simp [names]) front.1
  · rw [if_neg baseRoot, if_pos pathRoot, pathRoot]
    refine iff_of_false (fun both => ?_) fun both => baseRoot both.1
    exact hp.names "" (both.2.subset (by simp)) rfl
  · simp [baseRoot, pathRoot, List.cons_prefix_cons]

/-- Below a base is left what follows its names. -/
theorem relativeTo_posix (hb : base.Driveless) (hp : path.Driveless) (root : base.root = path.root)
    (front : path.names = base.names ++ rest) :
    relativeTo .posix base path = .ok (ofNames rest) := by
  have below : isBelow .posix base path = true :=
    (isBelow_posix_iff hb hp).mpr ⟨root, front ▸ List.prefix_append _ _⟩
  have left : path.steps.drop base.steps.length = rest := by
    rw [hb.steps, hp.steps, root, front]
    split <;> simp
  -- A base of one step is a name alone, and then the path has no root either.
  have single : (base.steps.length = 1 && path.root ≠ "") = false := by
    rw [hb.steps, root]
    split <;> simp_all
  rw [relativeTo, if_pos below]
  simp only [left, single]
  rfl

theorem relativeTo_not_below (h : isBelow style base path = false) :
    relativeTo style base path = .error ⟨style, base, path⟩ := by
  rw [relativeTo, if_neg (by simp [h])]

/-! ## Texts of paths -/

section Texts

variable {base path : String}

theorem normalize_posix_eq_ok_iff : normalize .posix base path = .ok text ↔
    ∃ rest, (read base).root = (read path).root ∧ (read path).names = (read base).names ++ rest ∧
      text = joinNames '/' rest := by
  have row (rest : List String) : (ofNames rest).write '/' = joinNames '/' rest :=
    String.empty_append
  have below := isBelow_posix_iff (driveless_read base) (driveless_read path)
  unfold normalize
  constructor
  · intro h
    cases within : isBelow .posix (read base) (read path) with
    | false =>
      simp only [Style.read, relativeTo_not_below within] at h
      cases h
    | true =>
      obtain ⟨root, rest, front⟩ := below.mp within
      have left := relativeTo_posix (driveless_read base) (driveless_read path) root front.symm
      simp only [Style.read, left, Style.separator, if_true, row] at h
      exact ⟨rest, root, front.symm, (Except.ok.inj h).symm⟩
  · rintro ⟨rest, root, front, rfl⟩
    have left := relativeTo_posix (driveless_read base) (driveless_read path) root front
    simp only [Style.read, left, Style.separator, if_true, row]

theorem isName_of_rest (front : (read path).names = (read base).names ++ rest)
    (h : name ∈ rest) : IsName '/' name :=
  isName_of_mem_read (front ▸ List.mem_append_right _ h)

/-- A base and what is left of a path below it make up the path. -/
theorem join_rest (root : (read base).root = (read path).root)
    (front : (read path).names = (read base).names ++ rest) :
    (read base).join (read (joinNames '/' rest)) = read path := by
  rw [read_joinNames fun name => isName_of_rest front]
  have drive : (read path).drive = (read base).drive := rfl
  cases parts : read path
  simp_all [join, ofNames]

/-- A path is told not to lie below a base unless it has the root of the base and begins with its
names. Otherwise what is left is a tidy row of the further names, each as it stands in the path. It
is empty just for the base itself, and joined to the base it is the path again; so no other path
below the base leaves the same. -/
theorem normalize_posix (base path : String) :
    (¬ ((read base).root = (read path).root ∧ (read base).names <+: (read path).names) →
        normalize .posix base path = .error ⟨.posix, read base, read path⟩) ∧
      ∀ rest, (read base).root = (read path).root →
        (read path).names = (read base).names ++ rest →
        ∃ text, normalize .posix base path = .ok text ∧ text = joinNames '/' rest ∧
          (∀ name ∈ rest, name.toList ∈ splitAtEach '/' path.toList) ∧
          (text = "" ↔ read base = read path) ∧ Tidy text ∧
          (read base).join (read text) = read path ∧
          ∀ other, normalize .posix base other = .ok text → read other = read path := by
  refine ⟨fun apart => ?_, fun rest root front => ?_⟩
  · have below := isBelow_posix_iff (driveless_read base) (driveless_read path)
    have outside : isBelow .posix (read base) (read path) = false := by
      simpa using mt below.mp apart
    simp only [normalize, Style.read, relativeTo_not_below outside]
  have named (name : String) (member : name ∈ rest) := isName_of_rest front member
  have whole := join_rest root front
  refine ⟨_, normalize_posix_eq_ok_iff.mpr ⟨rest, root, front, rfl⟩, rfl, fun name member => ?_,
    ?_, tidy_joinNames named, whole, fun other left => ?_⟩
  · have inPath : name ∈ readNames '/' path.toList := by
      rw [← names_read, front]
      exact List.mem_append_right _ member
    exact (mem_readNames inPath).1
  · rw [joinNames_eq_empty_iff fun name member => (named name member).some_]
    constructor
    · rintro rfl
      calc read base = ⟨"", (read base).root, (read base).names⟩ := rfl
        _ = ⟨"", (read path).root, (read path).names⟩ := by rw [root, front, List.append_nil]
        _ = read path := rfl
    · intro same
      rw [same] at front
      simpa using front.symm
  · obtain ⟨rest', root', front', same⟩ := normalize_posix_eq_ok_iff.mp left
    rw [← whole, same, join_rest root' front']

/-- What is left keeps its backslashes, and a base with another root has nothing below it. -/
theorem normalize_posix_backslash :
    normalize .posix "/proj/" "///proj//src/./a\\b/" = .ok "src/a\\b" ∧
      (read "/proj/").join (read "src/a\\b") = read "///proj//src/./a\\b/" ∧
      normalize .posix "/proj" "//proj/a" = .error ⟨.posix, read "/proj", read "//proj/a"⟩ := by
  obtain ⟨text, left, rfl, -, -, -, whole, -⟩ :=
    (normalize_posix "/proj/" "///proj//src/./a\\b/").2 ["src", "a\\b"] (by cbv) (by cbv)
  have row : joinNames '/' ["src", "a\\b"] = "src/a\\b" := by decide
  rw [row] at left whole
  exact ⟨left, whole, (normalize_posix "/proj" "//proj/a").1 (by decide)⟩

end Texts

end TabAudit.Path
