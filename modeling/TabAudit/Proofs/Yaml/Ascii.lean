import Mathlib
import TabAudit.Proofs.Text.Ascii
import TabAudit.Yaml.Write

/-!
# YAML is written in printable ASCII

A page holds nothing but printable ASCII and ends of lines, whatever is written on it. A scalar with
any other character goes between double quotes, where such characters are escaped.
-/

namespace TabAudit.Yaml

/-- A page of printable ASCII. -/
def Page.Printable (p : Page) : Prop := TabAudit.Printable p.written

namespace Page.Printable

variable {p : Page} {text : List Char}

theorem put (h : p.Printable) (ht : TabAudit.Printable text) : (p.put text).Printable :=
  printable_append.mpr ⟨printable_reverse.mpr ht, h⟩

theorem mark {text : String} (h : p.Printable) (ht : TabAudit.Printable text.toList)
    (apart blank fresh : Bool) : (p.mark text apart blank fresh).Printable := by
  unfold Page.mark
  refine put h ?_
  split
  · exact printable_cons.mpr ⟨by decide, ht⟩
  · exact ht

theorem endLine (h : p.Printable) : p.endLine.Printable :=
  printable_cons.mpr ⟨.inl rfl, h⟩

theorem indentTo (h : p.Printable) (indent : Nat) : (p.indentTo indent).Printable := by
  unfold Page.indentTo
  extract_lets q
  have ended : q.Printable := by
    unfold q
    split
    · exact h.endLine
    · exact h
  clear_value q
  split
  · exact put ended (printable_replicate _)
  · exact ended

end Page.Printable

/-! ## Scalars -/

theorem printable_of_isPlainAscii {c : Char} (h : isPlainAscii c = true) : IsPrintable c := by
  simp only [isPlainAscii, Bool.or_eq_true, beq_iff_eq, Bool.and_eq_true, decide_eq_true_eq] at h
  rcases h with h | ⟨low, high⟩
  · exact .inl h
  · exact .inr ⟨low, by omega⟩

/-- A text without escapes is of printable ASCII. -/
theorem printable_of_traits {s : List Char} (h : (traits s).escapes = false) : Printable s := by
  simp only [traits, Bool.or_eq_false_iff] at h
  intro c member
  refine printable_of_isPlainAscii ?_
  have plain := List.any_eq_false.mp h.1 c member
  simpa using plain

/-- Only double quotes hold characters that have to be escaped. -/
theorem printable_of_choose {block plainKind key : Bool} {s : List Char}
    (h : Style.choose block plainKind key s ≠ .double) : Printable s := by
  unfold Style.choose at h
  split at h
  · rename_i none
    rw [List.isEmpty_iff.mp none]
    exact printable_nil
  · by_cases escapes : (traits s).escapes = false
    · exact printable_of_traits escapes
    · refine absurd ?_ h
      simp [escapes]

theorem mem_runs {s run : List Char} {c : Char} (h : run ∈ runs s) (member : c ∈ run) : c ∈ s := by
  induction s generalizing run with
  | nil => simp [runs] at h
  | cons first rest ih =>
    unfold runs at h
    extract_lets kind at h
    clear_value kind
    split at h
    · rename_i d inner more found
      have inside (hc : c ∈ d :: inner) : c ∈ first :: rest :=
        List.mem_cons_of_mem _ (ih (by rw [found]; simp) hc)
      have others (run : List Char) (hr : run ∈ more) (hc : c ∈ run) : c ∈ first :: rest :=
        List.mem_cons_of_mem _ (ih (by rw [found]; simp [hr]) hc)
      split at h
      · rcases List.mem_cons.mp h with rfl | h
        · rcases List.mem_cons.mp member with rfl | member
          · simp
          · exact inside member
        · exact others run h member
      · rcases List.mem_cons.mp h with rfl | h
        · simp_all
        · rcases List.mem_cons.mp h with rfl | h
          · exact inside member
          · exact others run h member
    · simp_all

theorem printable_run {s run : List Char} (h : Printable s) (member : run ∈ runs s) :
    Printable run := fun c inside => h c (mem_runs member inside)

/-- Writing runs one after the other keeps a page as each of them does. -/
theorem foldl_printable {α : Type} {step : Page → α → Page} {l : List α}
    (each : ∀ p, ∀ a ∈ l, p.Printable → (step p a).Printable) {p : Page} (h : p.Printable) :
    (l.foldl step p).Printable := by
  induction l generalizing p with
  | nil => exact h
  | cons a l ih =>
    exact ih (fun p b member => each p b (by simp [member])) (each p a (by simp) h)

variable {p : Page} {s : List Char}

theorem putPlain_printable (h : p.Printable) (indent : Nat) (split : Bool) (hs : Printable s) :
    (putPlain p indent split s).Printable := by
  unfold putPlain
  split
  · exact h
  have front : (if p.blank then p else p.put [' ']).Printable := by
    split
    · exact h
    · exact h.put (by simp [IsPrintable])
  refine foldl_printable (fun q run member hq => ?_) front
  split
  · exact hq.indentTo indent
  · exact hq.put (printable_run hs member)

theorem putBreaks_printable (h : p.Printable) (indent : Nat) (run : List Char) :
    (putBreaks p indent run).Printable :=
  (foldl_printable (fun _ _ _ hq => hq.endLine) h.endLine).indentTo indent

theorem printable_singleChar {c : Char} (h : IsPrintable c) : Printable (singleChar c) := by
  unfold singleChar
  split
  · simp [IsPrintable]
  · exact printable_cons.mpr ⟨h, printable_nil⟩

theorem putSingleRuns_printable (indent : Nat) (split first : Bool) {rows : List (List Char)}
    (hr : ∀ run ∈ rows, Printable run) (h : p.Printable) :
    (putSingleRuns indent split first p rows).Printable := by
  induction rows generalizing p first with
  | nil => exact h
  | cons run rest ih =>
    obtain ⟨here, later⟩ := List.forall_mem_cons.mp hr
    unfold putSingleRuns
    refine ih _ later ?_
    split
    · exact putBreaks_printable h indent run
    split
    · exact h.indentTo indent
    · exact h.put (printable_flatMap fun c member => printable_singleChar (here c member))

theorem putSingle_printable (h : p.Printable) (indent : Nat) (split : Bool) (hs : Printable s) :
    (putSingle p indent split s).Printable :=
  (putSingleRuns_printable indent split true (fun _ => printable_run hs)
    (h.mark (by simp [IsPrintable]) true false false)).mark (by simp [IsPrintable]) false false
    false

theorem printable_hexCapitals (width n : Nat) : Printable (hexCapitals width n) :=
  printable_map_hexDigits (by decide) width n

theorem printable_escapeLetter {c letter : Char} (h : escapeLetter? c = some letter) :
    IsPrintable letter := by
  unfold escapeLetter? at h
  split at h <;> cases h <;> decide

theorem printable_escape {c : CodePoint} {text : List Char} (h : escape? c = some text) :
    Printable text := by
  unfold escape? at h
  split at h
  · rename_i letter found
    cases h
    obtain ⟨_, -, found⟩ := Option.bind_eq_some_iff.mp found
    exact printable_cons.mpr ⟨by decide, printable_cons.mpr
      ⟨printable_escapeLetter found, printable_nil⟩⟩
  dsimp only at h
  split at h
  · cases h
  split at h
  · cases h
    simp [printable_hexCapitals, IsPrintable]
  split at h
  · cases h
    simp [printable_hexCapitals, IsPrintable]
  · cases h
    simp [printable_hexCapitals, IsPrintable]

/-- What is not escaped is printable. -/
theorem printable_of_escape {c : CodePoint} (h : escape? c = none) : IsPrintable c.toChar := by
  unfold escape? at h
  split at h
  · cases h
  dsimp only at h
  split at h
  · rename_i plain
    simp only [Bool.and_eq_true, decide_eq_true_eq] at plain
    cases c with
    | char c => exact .inr ⟨plain.1, Nat.lt_succ_of_le plain.2⟩
    | half n =>
      simp only [CodePoint.code] at plain
      omega
  split at h
  · cases h
  split at h <;> cases h

theorem foldDouble_printable (h : p.Printable) (indent : Nat) (next : Option CodePoint) :
    (foldDouble p indent next).Printable := by
  have folded : ((p.put ['\\']).indentTo indent).Printable :=
    (h.put (by simp [IsPrintable])).indentTo indent
  unfold foldDouble
  dsimp only
  split
  · exact Page.Printable.put folded (by simp [IsPrintable])
  · exact folded

theorem putDoubleFrom_printable (indent : Nat) (split : Bool) (size pos : Nat)
    {held : List Char} (points : List CodePoint) (h : p.Printable) (hh : Printable held) :
    (putDoubleFrom indent split size pos p held points).Printable := by
  induction points generalizing p pos held with
  | nil => exact h.put (printable_reverse.mpr hh)
  | cons c rest ih =>
    have shown : (p.put held.reverse).Printable := h.put (printable_reverse.mpr hh)
    unfold putDoubleFrom
    dsimp only
    split
    · rename_i escape found
      have escaped := shown.put (printable_escape found)
      refine ih _ ?_ printable_nil
      split
      · exact foldDouble_printable escaped indent _
      · exact escaped
    · rename_i plain
      have char := printable_of_escape plain
      split
      · exact ih _ (foldDouble_printable shown indent _) (by simpa using char)
      · exact ih _ h (printable_cons.mpr ⟨char, hh⟩)

theorem putDouble_printable (h : p.Printable) (indent : Nat) (split : Bool) (t : Text) :
    (putDouble p indent split t).Printable :=
  (putDoubleFrom_printable indent split _ 0 t.points
    (h.mark (by simp [IsPrintable]) true false false) printable_nil).mark
      (by simp [IsPrintable]) false false false

theorem printable_blockHints (s : List Char) : Printable (blockHints s).toList := by
  unfold blockHints
  rw [String.toList_append, printable_append]
  constructor
  · split <;> simp [IsPrintable]
  · split
    · simp
    · split
      · simp [IsPrintable]
      split <;> simp [IsPrintable]

theorem putBlock_printable (h : p.Printable) (indent : Nat) (hs : Printable s) :
    (putBlock p indent s).Printable := by
  have start : ((p.mark ("|" ++ blockHints s) true false false).endLine).Printable := by
    refine (h.mark ?_ true false false).endLine
    simp [IsPrintable, printable_blockHints]
  unfold putBlock
  extract_lets q r
  have body : r.Printable := by
    refine foldl_printable (fun p run member hp => ?_) start
    split
    · exact foldl_printable (fun _ _ _ hq => hq.endLine) hp
    split
    · exact (hp.indentTo indent).put (printable_run hs member)
    · exact hp.put (printable_run hs member)
  clear_value r
  split
  · exact body
  · exact body.endLine

theorem putScalar_printable (h : p.Printable) (indent : Nat) (key : Bool) {x : Scalar}
    (tag : Printable x.tag.toList) : (putScalar p indent key x).Printable := by
  unfold putScalar
  extract_lets style silent q
  have front : q.Printable := by
    unfold q
    split
    · exact h
    · exact h.mark tag true false false
  have plain : style ≠ .double → Printable x.text := printable_of_choose
  clear_value q silent style
  cases style with
  | plain => exact putPlain_printable front indent _ (plain (by decide))
  | single => exact putSingle_printable front indent _ (plain (by decide))
  | double => exact putDouble_printable front indent _ _
  | block => exact putBlock_printable front indent (plain (by decide))

theorem printable_tag {v : Value} {x : Scalar} (h : Scalar.of? v = some x) :
    Printable x.tag.toList := by
  unfold Scalar.of? at h
  split at h <;> cases h <;> simp [IsPrintable, Scalar.of?.plain]

/-! ## Collections -/

theorem putKey_printable (h : p.Printable) (indent : Nat) (k : Value) {putLong : Page → Page}
    (long : ∀ q, q.Printable → (putLong q).Printable) : (putKey indent p k putLong).Printable := by
  have start : (p.indentTo indent).Printable := h.indentTo indent
  unfold putKey
  dsimp only
  split
  · rename_i x found
    obtain ⟨found, -⟩ := Option.filter_eq_some_iff.mp found
    exact (putScalar_printable start _ true (printable_tag found)).mark (by simp [IsPrintable])
      false false false
  · exact ((long _ (start.mark (by simp [IsPrintable]) true false true)).indentTo indent).mark
      (by simp [IsPrintable]) true false true

mutual

theorem putValue_printable (indent : Nat) (inMapping : Bool) {p : Page} (h : p.Printable)
    (v : Value) : (putValue indent inMapping p v).Printable := by
  unfold putValue
  split
  · exact (h.mark (by simp [IsPrintable]) true true false).mark (by simp [IsPrintable]) false false
      false
  · exact putItems_printable _ h _
  · exact ((h.mark (by simp [IsPrintable]) true false false).mark (by simp [IsPrintable]) true true
      false).mark (by simp [IsPrintable]) false false false
  · exact putItems_printable _ (h.mark (by simp [IsPrintable]) true false false) _
  · exact ((h.mark (by simp [IsPrintable]) true false false).mark (by simp [IsPrintable]) true true
      false).mark (by simp [IsPrintable]) false false false
  · exact putMembers_printable _ (h.mark (by simp [IsPrintable]) true false false) _
  · exact (h.mark (by simp [IsPrintable]) true true false).mark (by simp [IsPrintable]) false false
      false
  · exact putPairs_printable _ h _
  · split
    · rename_i found
      exact putScalar_printable h _ false (printable_tag found)
    · exact h
termination_by sizeOf v

theorem putItems_printable (indent : Nat) {p : Page} (h : p.Printable) (items : List Value) :
    (putItems indent p items).Printable := by
  cases items with
  | nil => rwa [putItems]
  | cons v rest =>
    rw [putItems]
    exact putItems_printable indent (putValue_printable indent false
      ((h.indentTo indent).mark (by simp [IsPrintable]) true false true) v) rest
termination_by sizeOf items

theorem putPairs_printable (indent : Nat) {p : Page} (h : p.Printable)
    (pairs : List (Value × Value)) : (putPairs indent p pairs).Printable := by
  cases pairs with
  | nil => rwa [putPairs]
  | cons e rest =>
    obtain ⟨k, v⟩ := e
    rw [putPairs]
    exact putPairs_printable indent (putValue_printable indent true
      (putKey_printable h indent k fun q hq => putValue_printable indent true hq k) v) rest
termination_by sizeOf pairs

theorem putMembers_printable (indent : Nat) {p : Page} (h : p.Printable) (members : List Value) :
    (putMembers indent p members).Printable := by
  cases members with
  | nil => rwa [putMembers]
  | cons k rest =>
    rw [putMembers]
    exact putMembers_printable indent (putScalar_printable
      (putKey_printable h indent k fun q hq => putValue_printable indent true hq k) _ false
      (by simp [Scalar.nothing, IsPrintable])) rest
termination_by sizeOf members

end

/-- The text of a mapping is of lines in printable ASCII. -/
theorem write_printable (pairs : List (Value × Value)) : Printable (write pairs).toList := by
  have start : Page.empty.Printable := printable_nil
  unfold write
  extract_lets p
  have body : p.Printable := by
    unfold p
    split
    · exact (start.mark (by simp [IsPrintable]) true true false).mark (by simp [IsPrintable]) false
        false false
    · exact putPairs_printable 0 start pairs
  rw [String.toList_ofList, printable_reverse]
  exact body.indentTo 0

end TabAudit.Yaml
