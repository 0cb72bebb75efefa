import Mathlib
import TabAudit.Proofs.Json.Text
import TabAudit.Proofs.Text.Ascii

/-!
# What is written as JSON is read back

The values that settings are made of are written as texts that are read as the same values. Each
value's text is read up to where it ends, whatever a writer puts behind it.
-/

namespace TabAudit.Json

/-- Values made of nothing, whole numbers that can be shown, and texts of characters, with at most
so many collections within each other. -/
inductive Simple : Nat → Value → Prop where
  | null {k : Nat} : Simple k .null
  | int {k : Nat} {n : Int} (fits : n.natAbs < Nat.pow 10 shownDigits) : Simple k (.int n)
  | str {k : Nat} (s : List Char) : Simple k (.str (.ofChars s))
  | list {k : Nat} {items : List Value} (each : ∀ v ∈ items, Simple k v) :
      Simple (k + 1) (.list items)
  | dict {k : Nat} {pairs : List (Value × Value)}
      (keys : ∀ e ∈ pairs, ∃ s, e.1 = .str (.ofChars s))
      (distinct : pairs.Pairwise fun a b => Value.sameKey a.1 b.1 = false)
      (each : ∀ e ∈ pairs, Simple k e.2) : Simple (k + 1) (.dict pairs)

/-- What a writer may put behind a value: nothing, a comma or a new line. -/
def Ends (rest : List Char) : Prop := ∀ c, rest.head? = some c → c = ',' ∨ c = '\n'

/-- A character that a value may start with: no blank, and no bracket that closes. -/
def Opens (c : Char) : Prop := c ∉ [' ', '\t', '\n', '\r', ']', '\x7d']

instance (c : Char) : Decidable (Opens c) :=
  inferInstanceAs (Decidable (_ ∉ _))

/-- A text is read as a value that has at most so many collections within each other. -/
structure Reads (k : Nat) (text : List Char) (v : Value) : Prop where
  opens : ∃ c rest, text = c :: rest ∧ Opens c
  printable : Printable text
  reads : ∀ fuel levels rest, 2 * text.length ≤ fuel → k ≤ levels → Ends rest →
    readValue fuel levels (text ++ rest) = .ok (v, rest)

/-! ## Blanks -/

theorem skipBlanks_of_opens {c : Char} (h : Opens c) (rest : List Char) :
    skipBlanks (c :: rest) = c :: rest := by
  unfold Opens at h
  refine List.dropWhile_cons_of_neg ?_
  simp_all

theorem skipBlanks_newLine (depth : Nat) (s : List Char) :
    skipBlanks (newLine depth ++ s) = skipBlanks s := by
  have blanks (n : Nat) : skipBlanks (List.replicate n ' ' ++ s) = skipBlanks s := by
    induction n with
    | zero => rfl
    | succ n ih => exact ih
  exact blanks (2 * depth)

/-- No blank stands in front of the text of a value. -/
theorem Reads.skipBlanks {k : Nat} {text : List Char} {v : Value} (h : Reads k text v)
    (rest : List Char) : skipBlanks (text ++ rest) = text ++ rest := by
  obtain ⟨c, letters, starts, opens⟩ := h.opens
  rw [starts, List.cons_append, skipBlanks_of_opens opens]

theorem printable_newLine (depth : Nat) : Printable (newLine depth) :=
  printable_cons.mpr ⟨.inl rfl, printable_replicate _⟩

/-! ## Numbers -/

theorem Ends.isDigit {rest : List Char} (h : Ends rest) {c : Char} (head : rest.head? = some c) :
    c.isDigit = false := by
  rcases h c head with rfl | rfl <;> rfl

theorem readPlaces_of_ends {rest : List Char} (h : Ends rest) : readPlaces rest = (none, rest) := by
  unfold readPlaces
  split
  · exact absurd (h '.' rfl) (by decide)
  · rfl

theorem readPower_of_ends {rest : List Char} (h : Ends rest) : readPower rest = (none, rest) := by
  cases rest with
  | nil => rfl
  | cons c rest =>
    rcases h c rfl with rfl | rfl <;> rfl

theorem takeWhile_natDigits (n : Nat) {rest : List Char} (h : Ends rest) :
    (natDigits n ++ rest).takeWhile Char.isDigit = natDigits n := by
  have ended : rest.takeWhile Char.isDigit = [] := by
    cases rest with
    | nil => rfl
    | cons c rest => exact List.takeWhile_cons_of_neg (by simp [h.isDigit rfl])
  rw [List.takeWhile_append_of_pos fun c member => isDigit_of_mem_natDigits member, ended,
    List.append_nil]

/-- Digits are read as the number that they stand for. -/
theorem readNumber_natDigits (negative : Bool) {n : Nat} (fits : n < Nat.pow 10 shownDigits)
    {rest : List Char} (h : Ends rest) :
    readNumber negative (natDigits n ++ rest) =
      some (.ok (.int (if negative then -n else n)), rest) := by
  have short : ¬ numeralLimit < (natDigits n).length := by
    have := length_natDigits_le (by decide : 0 < shownDigits) fits
    have same : numeralLimit = shownDigits := rfl
    omega
  have some_ : (natDigits n).isEmpty = false := by simpa using natDigits_ne_nil n
  unfold readNumber
  extract_lets whole value
  have digits : whole = natDigits n := by
    unfold whole
    split
    · -- Only zero starts with a zero.
      rename_i later starts
      rcases Nat.eq_zero_or_pos n with rfl | pos
      · exact (natDigits_of_lt (by decide : 0 < 10)).symm
      · have head := natDigits_head pos
        rw [← List.head?_append_of_ne_nil _ (natDigits_ne_nil n), starts] at head
        exact absurd rfl head
    · exact takeWhile_natDigits n h
  have number : value = n := by
    unfold value
    rw [digits, ofDecimalDigits_natDigits]
  clear_value value whole
  subst digits number
  simp [some_, readPlaces_of_ends h, readPower_of_ends h, short]

/-- No word starts with a digit, or with a sign and a digit. -/
theorem readWord_digit {c : Char} (digit : c.isDigit = true) (rest : List Char) :
    readWord (c :: rest) = none ∧ readWord ('-' :: c :: rest) = none := by
  have other (x : Char) (letter : x.isDigit = false) : (x == c) = false :=
    beq_eq_false_iff_ne.mpr fun same => by rw [← same, letter] at digit; cases digit
  constructor
  · simp only [readWord, List.findSome?, afterWord?, String.reduceToList, List.isPrefixOf,
      other 'n' rfl, other 't' rfl, other 'f' rfl, other 'N' rfl, other 'I' rfl, other '-' rfl,
      Bool.false_and, Bool.false_eq_true, if_false, Option.map_none]
  · have differ : ('n' == '-') = false ∧ ('t' == '-') = false ∧ ('f' == '-') = false ∧
        ('N' == '-') = false ∧ ('I' == '-') = false := by decide
    simp only [readWord, List.findSome?, afterWord?, String.reduceToList, List.isPrefixOf,
      differ, other 'I' rfl, Bool.false_and, Bool.and_false, Bool.false_eq_true, if_false,
      Option.map_none]

theorem readPlain_int {n : Int} (fits : n.natAbs < Nat.pow 10 shownDigits) {rest : List Char}
    (h : Ends rest) : readPlain (intDigits n ++ rest) = .ok (.int n, rest) := by
  obtain ⟨c, digits, same⟩ := List.exists_cons_of_ne_nil (natDigits_ne_nil n.natAbs)
  have digit : c.isDigit = true := isDigit_of_mem_natDigits (by rw [same]; simp)
  obtain ⟨plain, signed⟩ := readWord_digit digit (digits ++ rest)
  have number (negative : Bool) := readNumber_natDigits negative fits h
  simp only [same, List.cons_append] at number
  unfold intDigits
  split
  · simp only [same, List.cons_append, readPlain, signed, number, if_true, Except.ok.injEq,
      Prod.mk.injEq, Value.int.injEq, and_true]
    omega
  · rw [same, List.cons_append, readPlain]
    · simp only [plain, number, Bool.false_eq_true, if_false]
      rw [Int.natAbs_of_nonneg (by omega)]
    · rintro rest starts
      cases starts
      cases digit

/-! ## Values -/

/-- A text that starts with no quote or opening bracket is read as a word or a number. -/
theorem readValue_plain {c : Char} {fuel levels : Nat} {rest : List Char}
    (other : c ≠ '"' ∧ c ≠ '[' ∧ c ≠ '\x7b') :
    readValue (fuel + 1) levels (c :: rest) = readPlain (c :: rest) := by
  rw [readValue]
  all_goals simp_all

theorem reads_null {k : Nat} : Reads k ['n', 'u', 'l', 'l'] .null where
  opens := ⟨_, _, rfl, by decide⟩
  printable := by simp [IsPrintable]
  reads fuel levels rest enough _ _ := by
    obtain ⟨fuel, rfl⟩ : ∃ n, fuel = n + 1 := ⟨fuel - 1, by simp at enough; omega⟩
    rw [List.cons_append, readValue_plain (by decide)]
    rfl

theorem printable_natDigits (n : Nat) : Printable (natDigits n) := fun c member => by
  have digit := isDigit_of_mem_natDigits member
  simp only [Char.isDigit, Bool.and_eq_true, decide_eq_true_eq] at digit
  obtain ⟨low, high⟩ := digit
  have low : 48 ≤ c.toNat := low
  have high : c.toNat ≤ 57 := high
  exact .inr (by omega)

theorem opens_digit {c : Char} (digit : c.isDigit = true) :
    Opens c ∧ c ≠ '"' ∧ c ≠ '[' ∧ c ≠ '\x7b' := by
  have other (x : Char) (letter : x.isDigit = false) : c ≠ x := by
    rintro rfl
    rw [digit] at letter
    cases letter
  refine ⟨?_, other _ rfl, other _ rfl, other _ rfl⟩
  simp only [Opens, List.mem_cons, List.not_mem_nil, or_false, not_or]
  exact ⟨other _ rfl, other _ rfl, other _ rfl, other _ rfl, other _ rfl, other _ rfl⟩

/-- What is written for a whole number is read as it. -/
theorem reads_int {k : Nat} {n : Int} (fits : n.natAbs < Nat.pow 10 shownDigits) :
    Reads k (intDigits n) (.int n) := by
  obtain ⟨c, digits, same⟩ := List.exists_cons_of_ne_nil (natDigits_ne_nil n.natAbs)
  have digit : c.isDigit = true := isDigit_of_mem_natDigits (by rw [same]; simp)
  obtain ⟨x, text, starts, opens, other⟩ : ∃ x text, intDigits n = x :: text ∧ Opens x ∧
      x ≠ '"' ∧ x ≠ '[' ∧ x ≠ '\x7b' := by
    unfold intDigits
    split
    · exact ⟨_, _, rfl, by decide⟩
    · exact ⟨c, digits, same, opens_digit digit⟩
  constructor
  · exact ⟨x, text, starts, opens⟩
  · unfold intDigits
    split
    · exact printable_cons.mpr ⟨by simp [IsPrintable], printable_natDigits _⟩
    · exact printable_natDigits _
  · intro fuel levels rest enough _ ends
    obtain ⟨fuel, rfl⟩ : ∃ n, fuel = n + 1 := ⟨fuel - 1, by simp [starts] at enough; omega⟩
    have plain := readPlain_int fits ends
    rw [starts, List.cons_append] at plain ⊢
    rw [readValue_plain other, plain]

/-! ## Texts -/

theorem printable_unitEscape (n : Nat) : Printable (unitEscape n) := by
  have digits : Printable ((hexDigits 4 n).map id) := printable_map_hexDigits (by decide) 4 n
  rw [List.map_id] at digits
  simp [unitEscape, digits, IsPrintable]

theorem printable_textChar (c : Char) : Printable (textChar c) := by
  unfold textChar
  split
  case h_8 =>
    simp only
    split
    · rename_i printable
      simp only [Bool.and_eq_true, decide_eq_true_eq] at printable
      exact printable_cons.mpr ⟨.inr printable, printable_nil⟩
    · split
      · exact printable_unitEscape _
      · exact printable_append.mpr ⟨printable_unitEscape _, printable_unitEscape _⟩
  all_goals simp [IsPrintable]

theorem printable_writeText (s : List Char) : Printable (writeText (.ofChars s)) := by
  refine printable_append.mpr ⟨printable_cons.mpr ⟨by simp [IsPrintable], ?_⟩, by
    simp [IsPrintable]⟩
  refine printable_flatMap fun point member => ?_
  obtain ⟨c, -, rfl⟩ := List.mem_map.mp member
  exact printable_textChar c

theorem reads_str {k : Nat} (s : List Char) :
    Reads k (writeText (.ofChars s)) (.str (.ofChars s)) where
  opens := ⟨_, _, rfl, by decide⟩
  printable := printable_writeText s
  reads fuel levels rest enough _ _ := by
    obtain ⟨fuel, rfl⟩ : ∃ n, fuel = n + 1 := ⟨fuel - 1, by simp [writeText] at enough; omega⟩
    rw [writeText, List.append_assoc, List.cons_append, List.singleton_append, readValue,
      readText_points]

/-! ## Lists -/

theorem ends_comma (rest : List Char) : Ends (',' :: rest) := by
  rintro c ⟨⟩
  exact .inl rfl

theorem ends_newLine (depth : Nat) (rest : List Char) : Ends (newLine depth ++ rest) := by
  rintro c ⟨⟩
  exact .inr rfl

/-- Members behind the first, each behind a comma on a line of its own. -/
def furtherMembers (depth : Nat) (members : List (List Char)) : List Char :=
  members.flatMap fun member => ',' :: newLine depth ++ member

theorem enclose_cons (opening closing : Char) (depth : Nat) (first : List Char)
    (rest : List (List Char)) :
    enclose opening closing depth (first :: rest) =
      opening :: (newLine (depth + 1) ++ (first ++ (furtherMembers (depth + 1) rest ++
        (newLine depth ++ [closing])))) := by
  simp [enclose, furtherMembers]

theorem ends_further (inner outer : Nat) (members : List (List Char)) (rest : List Char) :
    Ends (furtherMembers inner members ++ (newLine outer ++ rest)) := by
  cases members with
  | nil => exact ends_newLine outer rest
  | cons member members => exact ends_comma _

theorem furtherMembers_behind (inner : Nat) (member : List Char) (members : List (List Char))
    (rest : List Char) :
    skipBlanks (furtherMembers inner (member :: members) ++ rest) =
      ',' :: (newLine inner ++ (member ++ (furtherMembers inner members ++ rest))) := by
  simp only [furtherMembers, List.flatMap_cons, List.cons_append, List.append_assoc]
  rfl

/-- Texts of items are read up to the bracket that closes the list. -/
theorem readItems_members {k : Nat} {texts : List (List Char)} {items : List Value}
    (each : List.Forall₂ (Reads k) texts items) {text : List Char} {v : Value}
    (first : Reads k text v) {fuel levels : Nat} (inner outer : Nat) (rest : List Char)
    (enough : 2 * (text ++ furtherMembers inner texts).length + 1 ≤ fuel) (fits : k ≤ levels) :
    readItems fuel levels (text ++ (furtherMembers inner texts ++
      (newLine outer ++ ']' :: rest))) = .ok (v :: items, rest) := by
  induction each generalizing text v fuel with
  | nil =>
    obtain ⟨fuel, rfl⟩ : ∃ n, fuel = n + 1 := ⟨fuel - 1, by omega⟩
    simp only [furtherMembers, List.flatMap_nil, List.append_nil] at enough
    rw [readItems, first.reads fuel levels _ (by omega) fits (ends_further _ _ _ _)]
    simp only [furtherMembers, List.flatMap_nil, List.nil_append, skipBlanks_newLine]
    rfl
  | cons second each ih =>
    rename_i text' v' texts items
    obtain ⟨fuel, rfl⟩ : ∃ n, fuel = n + 1 := ⟨fuel - 1, by omega⟩
    have shorter : 2 * (text' ++ furtherMembers inner texts).length + 1 ≤ fuel := by
      simp only [furtherMembers, List.flatMap_cons, List.length_append, List.length_cons]
        at enough ⊢
      omega
    rw [readItems, first.reads fuel levels _ ?_ fits (ends_further _ _ _ _)]
    · simp only [furtherMembers_behind, skipBlanks_newLine, second.skipBlanks, ih second shorter]
    · simp only [List.length_append] at enough
      omega

theorem printable_furtherMembers (depth : Nat) {members : List (List Char)}
    (h : ∀ member ∈ members, Printable member) : Printable (furtherMembers depth members) :=
  printable_flatMap fun member here => printable_append.mpr
    ⟨printable_cons.mpr ⟨by simp [IsPrintable], printable_newLine depth⟩, h member here⟩

theorem printable_enclose {opening closing : Char} (first : IsPrintable opening)
    (last : IsPrintable closing) (depth : Nat) {members : List (List Char)}
    (h : ∀ member ∈ members, Printable member) :
    Printable (enclose opening closing depth members) := by
  cases members with
  | nil => simp [enclose, first, last]
  | cons member rest =>
    rw [enclose_cons]
    obtain ⟨here, later⟩ := List.forall_mem_cons.mp h
    simp [first, last, here, printable_newLine, printable_furtherMembers _ later]

theorem reads_list {k : Nat} {texts : List (List Char)} {items : List Value}
    (each : List.Forall₂ (Reads k) texts items) (depth : Nat) :
    Reads (k + 1) (enclose '[' ']' depth texts) (.list items) where
  opens := by cases texts <;> exact ⟨_, _, rfl, by decide⟩
  printable := by
    have printable := (List.forall₂_and_left _ _).mp (each.imp fun _ _ h => ⟨h.printable, h⟩)
    exact printable_enclose (by simp [IsPrintable]) (by simp [IsPrintable]) depth printable.1
  reads fuel levels rest enough fits ends := by
    obtain ⟨levels, rfl⟩ : ∃ n, levels = n + 1 := ⟨levels - 1, by omega⟩
    cases each with
    | nil =>
      obtain ⟨fuel, rfl⟩ : ∃ n, fuel = n + 1 := ⟨fuel - 1, by simp [enclose] at enough; omega⟩
      rw [enclose, List.cons_append, readValue]
      rfl
    | @cons text v texts items first each =>
      obtain ⟨c, letters, starts, opens⟩ := first.opens
      rw [enclose_cons] at enough ⊢
      simp only [List.length_cons, List.length_append] at enough
      obtain ⟨fuel, rfl⟩ : ∃ n, fuel = n + 1 := ⟨fuel - 1, by omega⟩
      have shorter : 2 * (text ++ furtherMembers (depth + 1) texts).length + 1 ≤ fuel := by
        rw [List.length_append]
        omega
      have read := readItems_members each first (depth + 1) depth rest shorter
        (show k ≤ levels by omega)
      simp only [List.cons_append, List.append_assoc, readValue, skipBlanks_newLine,
        first.skipBlanks, List.nil_append] at read ⊢
      split
      · rename_i closed
        rw [starts] at closed
        cases closed
        exact absurd opens (by decide)
      · rw [read]

/-! ## Mappings -/

theorem put_of_new {key v : Value} {done : List (Value × Value)}
    (new : ∀ e ∈ done, Value.sameKey e.1 key = false) :
    Value.put key v done = done ++ [(key, v)] := by
  induction done with
  | nil => rfl
  | cons e done ih =>
    obtain ⟨here, later⟩ := List.forall_mem_cons.mp new
    rw [Value.put, if_neg (by rw [here]; decide), ih later, List.cons_append]

/-- Pairs whose keys differ are a mapping as they stand. -/
theorem putAll_of_distinct {pairs : List (Value × Value)}
    (distinct : pairs.Pairwise fun a b => Value.sameKey a.1 b.1 = false) :
    Value.putAll pairs = pairs := by
  have from_ (done : List (Value × Value))
      (h : (done ++ pairs).Pairwise fun a b => Value.sameKey a.1 b.1 = false) :
      pairs.foldl (fun done e => Value.put e.1 e.2 done) done = done ++ pairs := by
    induction pairs generalizing done with
    | nil => simp
    | cons e rest ih =>
      have new : ∀ x ∈ done, Value.sameKey x.1 e.1 = false := fun x member =>
        (List.pairwise_append.mp h).2.2 x member e (by simp)
      rw [List.foldl_cons, put_of_new new]
      simpa using ih (List.pairwise_cons.mp distinct).2 (done ++ [e]) (by simpa using h)
  exact from_ [] distinct

/-- A text is read as a pair of a mapping. -/
def ReadsPair (k : Nat) (text : List Char) (e : Value × Value) : Prop :=
  ∃ key value, e.1 = .str (.ofChars key) ∧ text = writeText (.ofChars key) ++ ':' :: ' ' :: value ∧
    Reads k value e.2

theorem ReadsPair.printable {k : Nat} {text : List Char} {e : Value × Value}
    (h : ReadsPair k text e) : Printable text := by
  obtain ⟨key, value, -, rfl, reads⟩ := h
  simp [printable_writeText, reads.printable, IsPrintable]

theorem ReadsPair.skipBlanks {k : Nat} {text : List Char} {e : Value × Value}
    (h : ReadsPair k text e) (rest : List Char) : skipBlanks (text ++ rest) = text ++ rest := by
  obtain ⟨key, value, -, rfl, -⟩ := h
  rfl

theorem ReadsPair.quote {k : Nat} {text : List Char} {e : Value × Value}
    (h : ReadsPair k text e) : ∃ inside, text = '"' :: inside := by
  obtain ⟨key, value, -, rfl, -⟩ := h
  exact ⟨_, rfl⟩

section Pairs

variable {k fuel levels : Nat} {text behind rest : List Char} {e : Value × Value}
  (h : ReadsPair k text e) (enough : 2 * text.length ≤ fuel) (fits : k ≤ levels)
  (ends : Ends behind)

include h enough fits ends

theorem readPairs_last (closed : skipBlanks behind = '\x7d' :: rest) :
    readPairs (fuel + 1) levels (text ++ behind) = .ok ([e], rest) := by
  obtain ⟨key, value, key_, rfl, reads⟩ := h
  have inside : skipBlanks (' ' :: (value ++ behind)) = value ++ behind := reads.skipBlanks behind
  have read := reads.reads fuel levels behind (by simp at enough; omega) fits ends
  have colon (rest : List Char) : skipBlanks (':' :: rest) = ':' :: rest := rfl
  simp only [writeText, List.append_assoc, List.cons_append, List.nil_append, readPairs,
    readText_points, colon, inside, read, closed, ← key_]

theorem readPairs_comma {later : List Char} {pairs : List (Value × Value)}
    (further : skipBlanks behind = ',' :: later)
    (read : readPairs fuel levels (skipBlanks later) = .ok (pairs, rest)) :
    readPairs (fuel + 1) levels (text ++ behind) = .ok (e :: pairs, rest) := by
  obtain ⟨key, value, key_, rfl, reads⟩ := h
  have inside : skipBlanks (' ' :: (value ++ behind)) = value ++ behind := reads.skipBlanks behind
  have first := reads.reads fuel levels behind (by simp at enough; omega) fits ends
  have colon (rest : List Char) : skipBlanks (':' :: rest) = ':' :: rest := rfl
  simp only [writeText, List.append_assoc, List.cons_append, List.nil_append, readPairs,
    readText_points, colon, inside, first, further, read, ← key_]

end Pairs

/-- Texts of pairs are read up to the bracket that closes the mapping. -/
theorem readPairs_members {k : Nat} {texts : List (List Char)} {pairs : List (Value × Value)}
    (each : List.Forall₂ (ReadsPair k) texts pairs) {text : List Char} {e : Value × Value}
    (first : ReadsPair k text e) {fuel levels : Nat} (inner outer : Nat) (rest : List Char)
    (enough : 2 * (text ++ furtherMembers inner texts).length + 1 ≤ fuel) (fits : k ≤ levels) :
    readPairs fuel levels (text ++ (furtherMembers inner texts ++
      (newLine outer ++ '\x7d' :: rest))) = .ok (e :: pairs, rest) := by
  induction each generalizing text e fuel with
  | nil =>
    obtain ⟨fuel, rfl⟩ : ∃ n, fuel = n + 1 := ⟨fuel - 1, by omega⟩
    simp only [furtherMembers, List.flatMap_nil, List.append_nil] at enough
    refine readPairs_last first (by omega) fits (ends_further _ _ _ _) ?_
    exact skipBlanks_newLine outer _
  | @cons text' e' texts pairs second each ih =>
    obtain ⟨fuel, rfl⟩ : ∃ n, fuel = n + 1 := ⟨fuel - 1, by omega⟩
    have shorter : 2 * (text' ++ furtherMembers inner texts).length + 1 ≤ fuel := by
      simp only [furtherMembers, List.flatMap_cons, List.length_append, List.length_cons]
        at enough ⊢
      omega
    refine readPairs_comma first ?_ fits (ends_further _ _ _ _) (furtherMembers_behind _ _ _ _) ?_
    · simp only [List.length_append] at enough
      omega
    · rw [skipBlanks_newLine, second.skipBlanks]
      exact ih second shorter

theorem reads_dict {k : Nat} {texts : List (List Char)} {pairs : List (Value × Value)}
    (each : List.Forall₂ (ReadsPair k) texts pairs)
    (distinct : pairs.Pairwise fun a b => Value.sameKey a.1 b.1 = false) (depth : Nat) :
    Reads (k + 1) (enclose '\x7b' '\x7d' depth texts) (.dict pairs) where
  opens := by cases texts <;> exact ⟨_, _, rfl, by decide⟩
  printable := by
    have printable := (List.forall₂_and_left _ _).mp (each.imp fun _ _ h => ⟨h.printable, h⟩)
    exact printable_enclose (by simp [IsPrintable]) (by simp [IsPrintable]) depth printable.1
  reads fuel levels rest enough fits ends := by
    obtain ⟨levels, rfl⟩ : ∃ n, levels = n + 1 := ⟨levels - 1, by omega⟩
    cases each with
    | nil =>
      obtain ⟨fuel, rfl⟩ : ∃ n, fuel = n + 1 := ⟨fuel - 1, by simp [enclose] at enough; omega⟩
      rw [enclose, List.cons_append, readValue]
      rfl
    | @cons text e texts pairs first each =>
      obtain ⟨inside, starts⟩ := first.quote
      rw [enclose_cons] at enough ⊢
      simp only [List.length_cons, List.length_append] at enough
      obtain ⟨fuel, rfl⟩ : ∃ n, fuel = n + 1 := ⟨fuel - 1, by omega⟩
      have shorter : 2 * (text ++ furtherMembers (depth + 1) texts).length + 1 ≤ fuel := by
        rw [List.length_append]
        omega
      have read := readPairs_members each first (depth + 1) depth rest shorter
        (show k ≤ levels by omega)
      simp only [List.cons_append, List.append_assoc, readValue, skipBlanks_newLine,
        first.skipBlanks, List.nil_append] at read ⊢
      split
      · rename_i closed
        rw [starts] at closed
        cases closed
      · rw [read]
        -- Of two pairs with one key the later would count.
        simp only [putAll_of_distinct distinct]

/-! ## Whole values -/

theorem showInt_of_lt {n : Int} (fits : n.natAbs < Nat.pow 10 shownDigits) :
    showInt n = .ok (intText n) := by
  unfold showInt
  -- The limit is a number of thousands of digits, not to be evaluated.
  generalize Nat.pow 10 shownDigits = limit at fits
  rw [if_pos fits]

theorem writeInt_of_lt {n : Int} (fits : n.natAbs < Nat.pow 10 shownDigits) :
    writeInt n = .ok (intDigits n) := by
  delta writeInt
  rw [showInt_of_lt fits]
  simp only [intText, String.toList_ofList]

theorem writeItems_reads {k depth : Nat} {items : List Value}
    (each : ∀ v ∈ items, ∃ text, writeValue depth v = .ok text ∧ Reads k text v) :
    ∃ texts, writeItems depth items = .ok texts ∧ List.Forall₂ (Reads k) texts items := by
  induction items with
  | nil => exact ⟨[], rfl, .nil⟩
  | cons v items ih =>
    obtain ⟨here, later⟩ := List.forall_mem_cons.mp each
    obtain ⟨text, written, reads⟩ := here
    obtain ⟨texts, writtens, readss⟩ := ih later
    exact ⟨text :: texts, by rw [writeItems, written, writtens], .cons reads readss⟩

theorem writePairs_reads {k depth : Nat} {pairs : List (Value × Value)}
    (keys : ∀ e ∈ pairs, ∃ s, e.1 = .str (.ofChars s))
    (each : ∀ e ∈ pairs, ∃ text, writeValue depth e.2 = .ok text ∧ Reads k text e.2) :
    ∃ texts, writePairs depth pairs = .ok texts ∧ List.Forall₂ (ReadsPair k) texts pairs := by
  induction pairs with
  | nil => exact ⟨[], rfl, .nil⟩
  | cons e pairs ih =>
    obtain ⟨here, later⟩ := List.forall_mem_cons.mp each
    obtain ⟨⟨s, key⟩, others⟩ := List.forall_mem_cons.mp keys
    obtain ⟨_, v⟩ := e
    cases key
    obtain ⟨text, written, reads⟩ := here
    obtain ⟨texts, writtens, readss⟩ := ih others later
    exact ⟨(writeText (.ofChars s) ++ ':' :: ' ' :: text) :: texts,
      by simp only [writePairs, keyText, written, writtens],
      .cons ⟨s, text, rfl, rfl, reads⟩ readss⟩

/-- Every simple value has a text, and that is read as the value. -/
theorem Simple.writeValue {k : Nat} {v : Value} (h : Simple k v) (depth : Nat) :
    ∃ text, writeValue depth v = .ok text ∧ Reads k text v := by
  induction h generalizing depth with
  | null => exact ⟨['n', 'u', 'l', 'l'], by rw [Json.writeValue], reads_null⟩
  | int fits =>
    exact ⟨_, by rw [Json.writeValue, writeInt_of_lt fits], reads_int fits⟩
  | str s => exact ⟨_, by rw [Json.writeValue], reads_str s⟩
  | list _ ih =>
    obtain ⟨texts, written, reads⟩ := writeItems_reads fun v member => ih v member (depth + 1)
    exact ⟨_, by rw [Json.writeValue, written], reads_list reads depth⟩
  | dict keys distinct _ ih =>
    obtain ⟨texts, written, reads⟩ := writePairs_reads keys fun e member =>
      ih e member (depth + 1)
    exact ⟨_, by rw [Json.writeValue, written], reads_dict reads distinct depth⟩

theorem areShowable {items : List Value} (each : ∀ v ∈ items, v.isShowable = true) :
    Value.areShowable items = true := by
  induction items with
  | nil => rfl
  | cons v rest ih =>
    obtain ⟨here, later⟩ := List.forall_mem_cons.mp each
    rw [Value.areShowable, here, ih later, Bool.and_self]

theorem pairsAreShowable {pairs : List (Value × Value)}
    (each : ∀ e ∈ pairs, e.1.isShowable = true ∧ e.2.isShowable = true) :
    Value.pairsAreShowable pairs = true := by
  induction pairs with
  | nil => rfl
  | cons e rest ih =>
    obtain ⟨⟨key, value⟩, later⟩ := List.forall_mem_cons.mp each
    rw [Value.pairsAreShowable, key, value, ih later, Bool.and_self, Bool.and_self]

theorem Simple.isShowable {k : Nat} {v : Value} (h : Simple k v) : v.isShowable = true := by
  induction h with
  | null => rfl
  | int fits => rw [Value.isShowable, showInt_of_lt fits, Except.isOk, Except.toBool]
  | str => rfl
  | list _ ih => rw [Value.isShowable, areShowable ih]
  | dict keys _ _ ih =>
    rw [Value.isShowable, pairsAreShowable]
    intro e member
    obtain ⟨s, key⟩ := keys e member
    exact ⟨by rw [key]; rfl, ih e member⟩

theorem depthOfAll?_le {k : Nat} {items : List Value}
    (each : ∀ v ∈ items, ∃ n ≤ k, v.depth? = some n) :
    ∃ n ≤ k, Value.depthOfAll? items = some n := by
  induction items with
  | nil => exact ⟨0, by omega, rfl⟩
  | cons v rest ih =>
    obtain ⟨⟨m, small, here⟩, later⟩ := List.forall_mem_cons.mp each
    obtain ⟨n, small', others⟩ := ih later
    exact ⟨max m n, by omega, by simp only [Value.depthOfAll?, here, others]⟩

theorem depthOfPairs?_le {k : Nat} {pairs : List (Value × Value)}
    (each : ∀ e ∈ pairs, ∃ n ≤ k, e.2.depth? = some n) :
    ∃ n ≤ k, Value.depthOfPairs? pairs = some n := by
  induction pairs with
  | nil => exact ⟨0, by omega, rfl⟩
  | cons e rest ih =>
    obtain ⟨⟨m, small, here⟩, later⟩ := List.forall_mem_cons.mp each
    obtain ⟨n, small', others⟩ := ih later
    exact ⟨max m n, by omega, by simp only [Value.depthOfPairs?, here, others]⟩

/-- No more collections lie within each other in a simple value than it is said to have. -/
theorem Simple.depth?_le {k : Nat} {v : Value} (h : Simple k v) : ∃ n ≤ k, v.depth? = some n := by
  induction h with
  | null => exact ⟨0, by omega, rfl⟩
  | int => exact ⟨0, by omega, rfl⟩
  | str => exact ⟨0, by omega, rfl⟩
  | list _ ih =>
    obtain ⟨n, small, depth⟩ := depthOfAll?_le ih
    exact ⟨n + 1, by omega, by rw [Value.depth?, depth, Option.map_some]⟩
  | dict _ _ _ ih =>
    obtain ⟨n, small, depth⟩ := depthOfPairs?_le ih
    exact ⟨n + 1, by omega, by rw [Value.depth?, depth, Option.map_some]⟩

/-- Every simple value that is not too deep has a text of printable ASCII that does not start with a
blank, and the text is read as the value. -/
theorem Simple.read_write {k : Nat} {v : Value} (h : Simple k v) (shallow : k ≤ nestingLimit) :
    ∃ text : List Char, write v = .ok (String.ofList text) ∧ Printable text ∧
      (∃ c rest, text = c :: rest ∧ Opens c) ∧ read (String.ofList text) = .ok v := by
  obtain ⟨text, written, reads⟩ := h.writeValue 0
  refine ⟨text, by rw [write, written], reads.printable, reads.opens, ?_⟩
  obtain ⟨c, rest, starts, opens⟩ := reads.opens
  have plain : text.head? ≠ some '\uFEFF' := by
    rw [starts]
    rintro ⟨⟩
    exact absurd (printable_cons.mp (starts ▸ reads.printable)).1 (by decide)
  have whole := reads.reads (2 * text.length + 2) nestingLimit [] (by omega) shallow
    (by rintro c ⟨⟩)
  have front := reads.skipBlanks []
  rw [List.append_nil] at whole front
  rw [read, readAll, String.toList_ofList, if_neg plain, front, whole]
  rfl

end TabAudit.Json
