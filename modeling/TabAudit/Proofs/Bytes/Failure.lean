import TabAudit.Proofs.Bytes.Alike

/-!
# What a failure of the source costs

A request for more than is unread takes the unread bytes out of the buffer before it asks the
source. If the source fails, nothing is handed over and these bytes are gone; the scan and all else
is as it was. From then on the reader is `Alike` to one whose buffer was emptied, so what is lost is
the unread bytes and nothing more.
-/

namespace TabAudit

theorem Source.eq_cons_of_failure {limit : Nat} {s s' : Source} {text : String}
    (h : s.answer limit = (.failure text, s')) : s = .failure text :: s' := by
  unfold answer at h
  split at h
  · cases h
  · split at h <;> cases h
  · cases h
  · cases h
    rfl

namespace NulReader

variable {r : NulReader}

/-! ## No byte is handed over twice -/

theorem Settled.balance {result : Except ReadFault (List UInt8) × NulReader}
    (h : r.Settled result) :
    (result.1.toOption.getD []).length + result.2.pending.length ≤ r.pending.length := by
  cases h with
  | refused e => simp [Except.toOption]
  | idle => simp [Except.toOption]
  | proceeds clear h =>
    cases h with
    | hands draws scan found balance =>
      have front := congrArg List.length balance
      simp only [pending, draws.content, List.length_append, Except.toOption, Option.getD_some]
        at front ⊢
      omega
    | run draws scan found emptied =>
      simp only [pending, draws.content, NulReader.unread, emptied, List.drop_nil,
        List.nil_append, List.length_append, Except.toOption, Option.getD_none, List.length_nil]
      omega
    | failure draws scan found failed emptied =>
      simp only [pending, draws.content, NulReader.unread, emptied, List.drop_nil,
        List.nil_append, List.length_append, Except.toOption, Option.getD_none, List.length_nil]
      omega

theorem make_balance (c : ReaderCall) (r : NulReader) :
    ((c.make r).1.toOption.getD []).length + (c.make r).2.pending.length ≤ r.pending.length := by
  cases hc : c.closes with
  | false => exact (Session.make_settled hc r).balance
  | true =>
    obtain ⟨same, outcome⟩ := Session.make_of_closes hc r
    have pending : r.close.2.pending = r.pending := by
      cases hx : r.closed with
      | true => rw [Session.close_of_closed hx]
      | false => simp [Session.close_of_open hx, NulReader.pending, NulReader.unread]
    rcases outcome with none | failed
    · simp [none, same, pending, Except.toOption]
    · simp [failed, same, pending, Except.toOption]

theorem length_given_le (r : NulReader) (calls : List ReaderCall) :
    (r.given calls).length ≤ r.pending.length := by
  induction calls generalizing r with
  | nil => exact Nat.zero_le _
  | cons c calls ih =>
    have now := make_balance c r
    have later := ih (c.make r).2
    rw [given_cons, List.length_append]
    omega

/-! ## A request that the source fails -/

/-- `r'` is `r` after a request that the source failed. -/
def FailedRequest (r : NulReader) (text : String) (r' : NulReader) : Prop :=
  ∃ limit rest, r.source = .failure text :: rest ∧ r' = r.answered limit (.failure text) rest

variable {text : String} {limit : Nat} {e : ReadFault}

theorem inspect_ne_source {bs : List UInt8} : (r.inspect bs).1 ≠ .error (.source text) := by
  unfold inspect
  split <;> simp

theorem draw_failure (h : (r.draw limit).1 = .error (.source text)) :
    r.FailedRequest text (r.draw limit).2 := by
  rcases asked : r.reset.pull limit with ⟨e | bs, r₁⟩
  · rw [draw, asked] at h ⊢
    unfold pull at asked
    rcases answer : r.reset.source.answer limit with ⟨bs | _ | told, source⟩
    · simp [answer] at asked
    · simp [answer] at asked
    · simp only [answer, Prod.mk.injEq, Except.error.injEq] at asked
      obtain ⟨rfl, rfl⟩ := asked
      obtain rfl : told = text := by simpa using h
      exact ⟨limit, source, Source.eq_cons_of_failure answer, rfl⟩
  · -- The source gave bytes, so the fault would be one of the scan.
    rw [draw_eq asked] at h
    have scan : (r₁.inspect bs).1 ≠ .error (.source text) := inspect_ne_source
    rcases inspected : r₁.inspect bs with ⟨e | _, r₂⟩
    · rw [inspected] at scan
      simp only [inspected] at h
      exact absurd (congrArg Except.error (Except.error.inj h)) scan
    · simp [inspected] at h

theorem barred_ne_source (h : r.barred = some e) : e ≠ .source text := by
  unfold barred at h
  split at h
  · cases h
    simp
  · cases hf : r.found with
    | none => simp [hf] at h
    | some first =>
      rw [hf] at h
      cases h
      simp

theorem readByte_failure (h : r.readByte.1 = .error (.source text)) :
    r.barred = none ∧ r.unread = [] ∧ r.FailedRequest text r.readByte.2 := by
  unfold readByte at h ⊢
  cases barred : r.barred with
  | some e => simp [barred, barred_ne_source barred] at h
  | none =>
    cases held : r.unread with
    | cons b rest => simp [barred, held] at h
    | nil =>
      have failure : _ → r.FailedRequest text (r.draw r.capacity).2 := draw_failure
      simp only [barred, held, fill_eq_draw] at h ⊢
      generalize r.draw r.capacity = result at failure h ⊢
      obtain ⟨e | bs, r₁⟩ := result
      · exact ⟨trivial, trivial, failure (congrArg Except.error (Except.error.inj h))⟩
      · cases bs <;> simp at h

theorem serve_failure {length : Nat} (h : (r.serve length).1 = .error (.source text)) :
    r.barred = none ∧ r.FailedRequest text (r.serve length).2 := by
  cases barred : r.barred with
  | some e => simp [serve_barred barred, barred_ne_source barred] at h
  | none =>
    refine ⟨rfl, ?_⟩
    by_cases hl : length ≤ r.unread.length
    · simp [serve_buffered barred hl] at h
    · obtain ⟨missing, hm⟩ := Nat.exists_eq_add_of_le (Nat.le_of_not_le hl)
      have failure : _ → r.FailedRequest text (r.draw (max missing r.capacity)).2 := draw_failure
      rw [serve_eq_draw barred hm (by omega)] at h ⊢
      generalize r.draw (max missing r.capacity) = result at failure h ⊢
      obtain ⟨e | bs, r₁⟩ := result
      · exact failure h
      · cases h

theorem readBlock_failure {length : Int} (h : (r.readBlock length).1 = .error (.source text)) :
    r.barred = none ∧ r.FailedRequest text (r.readBlock length).2 := by
  by_cases hl : length < 1
  · simp [readBlock, hl] at h
  · cases hm : memoryFault? length.toNat with
    | some fault => simp [readBlock, hl, hm] at h
    | none =>
      rw [readBlock_eq_serve (by omega) hm] at h ⊢
      exact serve_failure h

/-- A single byte is asked for only when nothing is unread. -/
theorem make_failure {c : ReaderCall} (single : ∀ size, c ≠ .read size)
    (h : (c.make r).1 = .error (.source text)) :
    r.barred = none ∧ r.FailedRequest text (c.make r).2 ∧ (c = .byte → r.unread = []) := by
  cases c with
  | byte =>
    have failed : r.readByte.1 = .error (.source text) := by
      rw [ReaderCall.make] at h
      cases hr : r.readByte.1 with
      | error e => simpa [hr, Except.map] using h
      | ok b => simp [hr, Except.map] at h
    obtain ⟨barred, held, failure⟩ := readByte_failure failed
    exact ⟨barred, failure, fun _ => held⟩
  | block length =>
    obtain ⟨barred, failure⟩ := readBlock_failure h
    exact ⟨barred, failure, by simp⟩
  | into length =>
    obtain ⟨barred, failure⟩ := serve_failure h
    exact ⟨barred, failure, by simp⟩
  | read size => exact absurd rfl (single size)
  | enter => cases h
  | close =>
    rcases (Session.make_of_closes (c := .close) rfl r).2 with none | closed
    · simp [none] at h
    · simp [closed] at h
  | leave => cases h

/-! ## What is lost -/

/-- Emptying the buffer is as good as taking all that is unread and throwing it away. -/
theorem given_unread (clear : r.barred = none) (later : List ReaderCall) :
    r.given (.into r.unread.length :: later) = r.unread ++ r.reset.given later := by
  have served : r.serve r.unread.length =
      (.ok r.unread, { r with pos := r.pos + r.unread.length }) := by
    simpa using serve_buffered clear (Nat.le_refl r.unread.length)
  have alike : Alike r.reset { r with pos := r.pos + r.unread.length } := by
    refine ⟨rfl, rfl, rfl, ?_, rfl, rfl, rfl⟩
    simp only [NulReader.unread, reset, ← List.drop_drop, List.drop_length, List.drop_nil]
  rw [given_cons, ReaderCall.make, served, alike.given]
  rfl

/-- A reader that hands over the same with its buffer emptied had nothing unread. Otherwise it
could be asked for its unread bytes over and over, and would never come to the end of them. -/
theorem given_reset_iff (clear : r.barred = none) :
    (∀ later, r.reset.given later = r.given later) ↔ r.unread = [] := by
  refine ⟨fun same => ?_, fun held => ?_⟩
  · have grows (k : Nat) : (r.reset.given (List.replicate k (.into r.unread.length))).length =
        k * r.unread.length := by
      induction k with
      | zero => simp [NulReader.given, answers]
      | succ k ih =>
        rw [List.replicate_succ, same, given_unread clear, List.length_append, ih, Nat.succ_mul,
          Nat.add_comm]
    have bound := length_given_le r.reset
      (List.replicate (r.reset.pending.length + 1) (.into r.unread.length))
    rw [grows] at bound
    by_contra held
    have := Nat.mul_le_mul_left (r.reset.pending.length + 1) (List.length_pos_iff.2 held)
    omega
  · have alike : Alike r r.reset := ⟨rfl, rfl, rfl, held.symm, rfl, rfl, rfl⟩
    exact alike.given

end NulReader

namespace Session

open NulReader

theorem handed_run (s : Session) (calls : List ReaderCall) :
    (s.run calls).handed = s.handed ++ s.reader.given calls := by
  induction calls generalizing s with
  | nil => simp [run, NulReader.given, answers]
  | cons c calls ih =>
    have step : (s.step c).handed = s.handed ++ (c.make s.reader).1.toOption.getD [] := by
      unfold Session.step after
      split <;> rename_i h <;> simp [h, Except.toOption]
    show ((s.step c).run calls).handed = _
    rw [ih, reader_step, step, given_cons, List.append_assoc]

/-- A call of one request that the source fails leaves the scan as it is and the reader open, but it
empties the buffer: from then on the reader answers as if its unread bytes had been thrown away. It
hands over what it would have handed over without the call just when nothing was unread, as is so
whenever a single byte is asked for. -/
theorem failed_call_drops_unread {r : NulReader} {c : ReaderCall}
    (single : ∀ size, c ≠ .read size) {text : String}
    (failed : (c.make r).1 = .error (.source text)) :
    ∃ rest, r.source = .failure text :: rest ∧
      let after := (c.make r).2
      let spared := { r with source := rest }
      after.source = rest ∧ after.scan = r.scan ∧ after.barred = none ∧
      (∀ later, after.answers later = spared.reset.answers later) ∧
      ((∀ later, ((start after).run later).handed = ((start spared).run later).handed) ↔
        r.unread = []) ∧
      (c = .byte → r.unread = []) := by
  obtain ⟨clear, ⟨limit, rest, source, made⟩, byte⟩ := make_failure single failed
  refine ⟨rest, source, ?_⟩
  intro after spared
  have emptied : Alike spared.reset after := by
    simp only [after, made]
    exact ⟨rfl, rfl, rfl, rfl, rfl, rfl, rfl⟩
  have barred : spared.barred = none := clear
  have lost : (∀ later, ((start after).run later).handed = ((start spared).run later).handed) ↔
      r.unread = [] := by
    rw [show r.unread = spared.unread from rfl, ← given_reset_iff barred]
    refine forall_congr' fun later => ?_
    rw [handed_run, handed_run, start, start, emptied.given]
    exact Iff.rfl
  exact ⟨emptied.source, emptied.scan, emptied.barred.trans barred, emptied.answers, lost, byte⟩

/-- A reader that has handed over the first of two bytes, then fails, and loses the second. -/
theorem failed_call_drops_unread_byte :
    ∃ r, NulReader.open (some [.bytes [97, 98], .failure "boom", .bytes [99]]) 1 4 = .ok r ∧
      let reader := ((start r).run [.byte]).reader
      ((ReaderCall.block 4).make reader).1 = .error (.source "boom") ∧ reader.unread = [98] ∧
      ((ReaderCall.block 4).make reader).2.scan = reader.scan ∧
      ¬ ∀ later, ((start ((ReaderCall.block 4).make reader).2).run later).handed =
        ((start { reader with source := [.bytes [99]] }).run later).handed := by
  have made : NulReader.open (some [.bytes [97, 98], .failure "boom", .bytes [99]]) 1 4 =
      .ok ⟨[.bytes [97, 98], .failure "boom", .bytes [99]], 0, 1, 4, [], 0, .initial, none,
        false, []⟩ := rfl
  refine ⟨_, made, ?_⟩
  intro reader
  have failed : ((ReaderCall.block 4).make reader).1 = .error (.source "boom") := by
    simp only [reader]
    cbv
  have held : reader.unread = [98] := by
    simp only [reader]
    cbv
  obtain ⟨rest, source, -, scan, -, -, lost, -⟩ := failed_call_drops_unread (by simp) failed
  obtain rfl : [.bytes [99]] = rest := by
    have known : reader.source = [.failure "boom", .bytes [99]] := by
      simp only [reader]
      cbv
    rw [known] at source
    exact (List.cons.inj source).2
  exact ⟨failed, held, scan, fun same => by simp [lost.1 same] at held⟩

/-- The byte that was read and not yet handed over is not in the next block. -/
theorem failed_block_drops_byte :
    ∃ r, NulReader.open (some [.bytes [97, 98], .failure "boom", .bytes [99]]) 1 4 = .ok r ∧
      let reader := ((start r).run [.byte]).reader
      reader.barred = none ∧ reader.source = [.failure "boom", .bytes [99]] ∧
      (reader.readBlock 4).1 = .error (.source "boom") ∧
      ((reader.readBlock 4).2.readBlock 4).1 = .ok [99] ∧
      ({ reader with source := [.bytes [99]] }.readBlock 4).1 = .ok [98, 99] :=
  ⟨_, rfl, by cbv, by cbv, by cbv, by cbv, by cbv⟩

end Session

end TabAudit
