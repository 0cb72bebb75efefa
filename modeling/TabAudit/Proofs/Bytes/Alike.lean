import TabAudit.Proofs.Bytes.Session

/-!
# Readers that answer alike

Two readers with the same source, sizes, unread bytes and scan give the same answers for ever,
whatever is asked of them. It is no matter what they handed over, what they keep a record of, or
which bytes in front of the cursor are still in the buffer.
-/

namespace TabAudit

namespace NulReader

/-- Readers that differ in nothing but their records and the bytes that they have handed over. -/
structure Alike (r r' : NulReader) : Prop where
  source : r'.source = r.source
  threshold : r'.threshold = r.threshold
  capacity : r'.capacity = r.capacity
  unread : r'.unread = r.unread
  scan : r'.scan = r.scan
  found : r'.found = r.found
  closed : r'.closed = r.closed

/-- One outcome, and readers that are alike. -/
def AlikeResults {α : Type} (a b : Except ReadFault α × NulReader) : Prop :=
  ∃ outcome r r', a = (outcome, r) ∧ b = (outcome, r') ∧ Alike r r'

variable {r r' : NulReader}

theorem Alike.barred (h : Alike r r') : r'.barred = r.barred := barred_of_same h.closed h.found

theorem Alike.skip (h : Alike r r') (n : Nat) :
    Alike { r with pos := r.pos + n } { r' with pos := r'.pos + n } where
  source := h.source
  threshold := h.threshold
  capacity := h.capacity
  unread := by
    have same := h.unread
    simp only [NulReader.unread] at same ⊢
    rw [← List.drop_drop, same, List.drop_drop]
  scan := h.scan
  found := h.found
  closed := h.closed

/-- With the same bytes in the buffer it is no matter what was there before. -/
theorem Alike.keep (h : Alike r r') (kept : List UInt8) (n : Nat) :
    Alike { r with buffer := kept, pos := n } { r' with buffer := kept, pos := n } :=
  { h with unread := rfl }

theorem Alike.results (h : Alike r r') {α : Type} (outcome : Except ReadFault α) :
    AlikeResults (outcome, r) (outcome, r') :=
  ⟨outcome, r, r', rfl, rfl, h⟩

/-! ## Each read -/

theorem Alike.pull (h : Alike r r') (limit : Nat) :
    AlikeResults (r.pull limit) (r'.pull limit) := by
  unfold NulReader.pull
  rw [h.source]
  rcases r.source.answer limit with ⟨bs | _ | text, source⟩
  · exact ⟨_, _, _, rfl, rfl, { h with source := rfl }⟩
  · exact ⟨_, _, _, rfl, rfl, { h with source := rfl }⟩
  · exact ⟨_, _, _, rfl, rfl, { h with source := rfl }⟩

theorem Alike.inspect (h : Alike r r') (bs : List UInt8) :
    AlikeResults (r.inspect bs) (r'.inspect bs) := by
  unfold NulReader.inspect
  rw [h.scan, h.threshold]
  rcases r.scan.feed r.threshold bs with ⟨scan, _ | _⟩
  · exact ⟨_, _, _, rfl, rfl, { h with threshold := rfl, scan := rfl }⟩
  · exact ⟨_, _, _, rfl, rfl, { h with threshold := rfl, scan := rfl, found := rfl }⟩

theorem Alike.draw (h : Alike r r') (limit : Nat) :
    AlikeResults (r.draw limit) (r'.draw limit) := by
  have emptied : Alike r.reset r'.reset := h.keep [] 0
  obtain ⟨outcome, r₁, r₁', pulled, pulled', readers⟩ := emptied.pull limit
  rw [NulReader.draw, NulReader.draw, pulled, pulled']
  cases outcome with
  | error e => exact readers.results _
  | ok bs =>
    obtain ⟨outcome, r₂, r₂', inspected, inspected', readers⟩ := readers.inspect bs
    simp only [inspected, inspected']
    cases outcome with
    | error e => exact readers.results _
    | ok => exact readers.results _

theorem Alike.readByte (h : Alike r r') : AlikeResults r.readByte r'.readByte := by
  unfold NulReader.readByte
  rw [h.barred, h.unread]
  cases r.barred with
  | some e => exact h.results _
  | none =>
    cases r.unread with
    | cons b rest => exact (h.skip 1).results _
    | nil =>
      obtain ⟨outcome, r₁, r₁', drawn, drawn', readers⟩ := h.draw r.capacity
      rw [fill_eq_draw, fill_eq_draw, h.capacity, drawn, drawn']
      cases outcome with
      | error e => exact readers.results _
      | ok bs =>
        cases bs with
        | nil => exact (readers.keep [] 0).results _
        | cons b rest => exact (readers.keep (b :: rest) 1).results _

theorem Alike.serve (h : Alike r r') (length : Nat) :
    AlikeResults (r.serve length) (r'.serve length) := by
  cases hb : r.barred with
  | some e =>
    rw [serve_barred hb, serve_barred (h.barred.trans hb)]
    exact h.results _
  | none =>
    have clear := h.barred.trans hb
    by_cases hl : length ≤ r.unread.length
    · rw [serve_buffered hb hl, serve_buffered clear (by rwa [h.unread]), h.unread]
      exact (h.skip length).results _
    · -- Both ask for the same number of bytes, and what they were holding is the same.
      obtain ⟨missing, hm⟩ := Nat.exists_eq_add_of_le (Nat.le_of_not_le hl)
      obtain ⟨outcome, r₁, r₁', drawn, drawn', readers⟩ := h.draw (max missing r.capacity)
      rw [serve_eq_draw hb hm (by omega), serve_eq_draw clear (by rwa [h.unread]) (by omega),
        h.unread, h.capacity, drawn, drawn']
      cases outcome with
      | error e => exact readers.results _
      | ok bs => exact (readers.keep _ _).results _

theorem Alike.readBlock (h : Alike r r') (length : Int) :
    AlikeResults (r.readBlock length) (r'.readBlock length) := by
  by_cases hl : length < 1
  · rw [NulReader.readBlock, NulReader.readBlock, if_pos hl, if_pos hl]
    exact h.results _
  · cases hm : memoryFault? length.toNat with
    | some fault =>
      simp only [NulReader.readBlock, if_neg hl, hm]
      exact h.results _
    | none =>
      rw [readBlock_eq_serve (by omega) hm, readBlock_eq_serve (by omega) hm]
      exact h.serve _

theorem Alike.readUpTo (h : Alike r r') (length : Nat) :
    AlikeResults (r.readUpTo length) (r'.readUpTo length) := by
  induction length using Nat.strong_induction_on generalizing r r' with
  | _ length ih =>
    rw [NulReader.readUpTo, NulReader.readUpTo]
    by_cases none : length = 0
    · rw [if_pos none, if_pos none]
      exact h.results _
    · obtain ⟨outcome, r₁, r₁', block, block', readers⟩ := h.readBlock length
      rw [if_neg none, if_neg none, block, block']
      rcases outcome with e | _ | ⟨b, bs⟩
      · exact readers.results _
      · exact readers.results _
      · obtain ⟨outcome, r₂, r₂', rest, rest', readers⟩ :=
          ih (length - (bs.length + 1)) (by omega) readers
        simp only [rest, rest']
        cases outcome with
        | error e => exact readers.results _
        | ok bs => exact readers.results _

/-- Reading to the end block by block. -/
theorem readToEnd_eq (r : NulReader) :
    r.readToEnd = match r.readBlock r.capacity with
      | (.error e, r) => (.error e, r)
      | (.ok [], r) => (.ok [], r)
      | (.ok (b :: bs), r) =>
        match r.readToEnd with
        | (.error e, r) => (.error e, r)
        | (.ok rest, r) => (.ok (b :: bs ++ rest), r) := by
  rw [readToEnd]
  split
  · rename_i h
    simp only [h]
  · rename_i h
    simp only [h]
  · rename_i b bs r₁ h
    rcases rest : r₁.readToEnd with ⟨_ | _, _⟩ <;> simp only [h, rest]

theorem Alike.readToEnd (h : Alike r r') : AlikeResults r.readToEnd r'.readToEnd := by
  -- A block is taken from what is pending, so the induction is on how much that is.
  induction size : r.pending.length using Nat.strong_induction_on generalizing r r' with
  | _ _ ih =>
    obtain ⟨outcome, r₁, r₁', block, block', readers⟩ := h.readBlock r.capacity
    rw [readToEnd_eq r, readToEnd_eq r', h.capacity, block, block']
    rcases outcome with e | _ | ⟨b, bs⟩
    · exact readers.results _
    · exact readers.results _
    · have fewer : r₁.pending.length < r.pending.length := by
        have balance := congrArg List.length (pending_readBlock block)
        simp only [List.length_append, List.length_cons] at balance
        omega
      obtain ⟨outcome, r₂, r₂', rest, rest', readers⟩ := ih _ (size ▸ fewer) readers rfl
      simp only [rest, rest']
      cases outcome with
      | error e => exact readers.results _
      | ok bs => exact readers.results _

/-! ## Calls in a row -/

theorem Alike.close (h : Alike r r') : AlikeResults r.close r'.close := by
  cases hx : r.closed with
  | true =>
    rw [Session.close_of_closed hx, Session.close_of_closed (h.closed.trans hx)]
    exact h.results _
  | false =>
    rw [Session.close_of_open hx, Session.close_of_open (h.closed.trans hx)]
    refine Alike.results ?_ _
    exact { h with closed := rfl }

/-- Readers that are alike answer every call alike. -/
theorem Alike.make (h : Alike r r') (c : ReaderCall) : AlikeResults (c.make r) (c.make r') := by
  cases c with
  | byte =>
    obtain ⟨outcome, r₁, r₁', left, right, readers⟩ := h.readByte
    rw [ReaderCall.make, ReaderCall.make, left, right]
    exact readers.results _
  | block length => exact h.readBlock length
  | into length => exact h.serve length
  | read size =>
    cases size with
    | none => exact h.readToEnd
    | some n =>
      by_cases below : n < 0
      · simp only [ReaderCall.make, NulReader.read, if_pos below]
        exact h.readToEnd
      · simp only [ReaderCall.make, NulReader.read, if_neg below]
        exact h.readUpTo _
  | close =>
    obtain ⟨outcome, r₁, r₁', left, right, readers⟩ := h.close
    rw [ReaderCall.make, ReaderCall.make, left, right]
    exact readers.results _
  | enter => exact h.results _
  | leave =>
    obtain ⟨outcome, r₁, r₁', left, right, readers⟩ := h.close
    rw [ReaderCall.make, ReaderCall.make, NulReader.leave, NulReader.leave, left, right]
    exact readers.results _

/-- What a reader answers to calls in a row. -/
def answers (r : NulReader) : List ReaderCall → List (Except ReadFault (List UInt8))
  | [] => []
  | c :: calls => (c.make r).1 :: (c.make r).2.answers calls

theorem Alike.answers (h : Alike r r') (calls : List ReaderCall) :
    r'.answers calls = r.answers calls := by
  induction calls generalizing r r' with
  | nil => rfl
  | cons c calls ih =>
    obtain ⟨outcome, r₁, r₁', left, right, readers⟩ := h.make c
    rw [NulReader.answers, NulReader.answers, left, right, ih readers]

/-- The bytes that calls in a row hand over. -/
def given (r : NulReader) (calls : List ReaderCall) : List UInt8 :=
  (r.answers calls).flatMap fun outcome => outcome.toOption.getD []

theorem given_cons (r : NulReader) (c : ReaderCall) (calls : List ReaderCall) :
    r.given (c :: calls) = (c.make r).1.toOption.getD [] ++ (c.make r).2.given calls := rfl

theorem Alike.given (h : Alike r r') (calls : List ReaderCall) :
    r'.given calls = r.given calls := by
  rw [NulReader.given, NulReader.given, h.answers]

end NulReader

end TabAudit
