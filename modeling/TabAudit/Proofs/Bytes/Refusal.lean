import TabAudit.Proofs.Bytes.Session

/-!
# A reader that no longer reads

A reader is barred once it is closed or has met a run of zeros. `Refuses` says what is then left of
every read: the same fault each time, and a reader that stays as it is, so that the source is not
asked either. Only a read that asks for nothing is not looked at, and what memory cannot hold is
refused for that before anything else. `run_refuses` says so of every run of calls.
-/

namespace TabAudit

namespace NulReader

/-- Why so many bytes are refused by a reader that is barred. -/
def refusal (e : ReadFault) (length : Int) : ReadFault :=
  match memoryFault? length.toNat with
  | some fault => .memory fault
  | none => e

/-- Every read is refused with one fault and changes nothing. -/
structure Refuses (r : NulReader) (e : ReadFault) : Prop where
  byte : r.readByte = (.error e, r)
  into : ∀ length, r.readInto length = (⟨[], .error e⟩, r)
  block : ∀ length, 1 ≤ length → r.readBlock length = (.error (refusal e length), r)
  upTo : ∀ size, 1 ≤ size → r.read (some size) = (.error (refusal e size), r)
  belowZero : ∀ size, size < 0 → r.read (some size) = (.error e, r)
  toEnd : r.read none = (.error e, r)
  /-- A read of no bytes is answered all the same. -/
  idle : r.read (some 0) = (.ok [], r)

variable {r : NulReader} {e : ReadFault}

theorem refusal_of_fits {length : Int} (h : memoryFault? length.toNat = none) :
    refusal e length = e := by
  rw [refusal, h]

/-- A block is refused for what bars the reader, unless memory cannot hold it. -/
theorem readBlock_of_barred (h : r.barred = some e) {length : Int} (hl : 1 ≤ length) :
    r.readBlock length = (.error (refusal e length), r) := by
  cases hm : memoryFault? length.toNat with
  | none => rw [readBlock_eq_serve hl hm, serve_barred h, refusal_of_fits hm]
  | some fault => simp only [readBlock, if_neg (show ¬ length < 1 by omega), hm, refusal]

/-- A read up to a size is refused with its first block. -/
theorem readUpTo_refused {length : Nat} (hl : length ≠ 0)
    (h : r.readBlock length = (.error e, r)) : r.readUpTo length = (.error e, r) := by
  rw [readUpTo, if_neg hl, h]

/-- What bars a reader is what it refuses every read with. -/
theorem Refuses.of_barred (h : r.barred = some e) (positive : 1 ≤ r.capacity)
    (fits : memoryFault? r.capacity = none) : r.Refuses e := by
  have toEnd : r.readToEnd = (.error e, r) := by
    apply readToEnd_refused
    rw [readBlock_of_barred h (by omega), refusal_of_fits (by simpa using fits)]
  refine {
    byte := by simp [readByte, h]
    into := fun length => by simp [readInto, h]
    block := fun length hl => readBlock_of_barred h hl
    upTo := fun size hs => ?_
    belowZero := fun size hs => by rw [read, if_pos hs, toEnd]
    toEnd := by rw [read, toEnd]
    idle := by rw [read, if_neg (by omega), readUpTo, if_pos (by rfl)] }
  have whole : ((size.toNat : Nat) : Int) = size := Int.toNat_of_nonneg (by omega)
  rw [read, if_neg (by omega)]
  apply readUpTo_refused (by omega)
  rw [whole, readBlock_of_barred h hs]

theorem barred_of_closed (h : r.closed = true) : r.barred = some .closed := by
  rw [barred, if_pos h]

theorem barred_of_poisoned {first : Nat} (isOpen : r.closed = false) (h : r.found = some first) :
    r.barred = some (.nulRun first) := by
  rw [barred, if_neg (by simp [isOpen]), h, Option.map_some]

/-- What a reader that could be made was made from. -/
theorem open_eq_ok {source : Option Source} {threshold capacity : Int}
    (h : NulReader.open source threshold capacity = .ok r) :
    ∃ content, source = some content ∧ 1 ≤ threshold ∧ 1 ≤ capacity ∧
      memoryFault? capacity.toNat = none := by
  unfold NulReader.open at h
  cases source with
  | none => simp at h
  | some content =>
    by_cases ht : threshold < 1
    · simp [ht] at h
    by_cases hc : capacity < 1
    · simp [ht, hc] at h
    cases fits : memoryFault? capacity.toNat with
    | some fault => simp [ht, hc, fits] at h
    | none => exact ⟨content, rfl, by omega, by omega, rfl⟩

end NulReader

namespace Session

open NulReader

/-- No call changes the size of a reader's buffer. -/
theorem capacity_run {source : Option Source} {threshold capacity : Int} {r : NulReader}
    (h : NulReader.open source threshold capacity = .ok r) (calls : List ReaderCall) :
    ((start r).run calls).reader.capacity = capacity.toNat := by
  obtain ⟨content, rfl, ht, hc, -⟩ := open_eq_ok h
  have sizes : NulReader.open (some content) threshold.toNat capacity.toNat = .ok r := by
    rwa [Int.toNat_of_nonneg (by omega), Int.toNat_of_nonneg (by omega)]
  exact ((sound_start (by omega) (by omega) sizes).run calls).capacity_eq

/-- After any calls, a closed reader refuses every read as closed, and an open one that has met a
run of zeros refuses it with the place of that run. -/
theorem run_refuses {source : Option Source} {threshold capacity : Int} {r : NulReader}
    (h : NulReader.open source threshold capacity = .ok r) (calls : List ReaderCall) :
    let reader := ((start r).run calls).reader
    (reader.closed = true → reader.Refuses .closed) ∧
      ∀ first, reader.closed = false → reader.found = some first →
        reader.Refuses (.nulRun first) := by
  intro reader
  obtain ⟨-, -, -, positive, fits⟩ := open_eq_ok h
  have size : reader.capacity = capacity.toNat := capacity_run h calls
  have refuses {e : ReadFault} (barred : reader.barred = some e) : reader.Refuses e :=
    .of_barred barred (by omega) (by rwa [size])
  exact ⟨fun closed => refuses (barred_of_closed closed),
    fun first isOpen found => refuses (barred_of_poisoned isOpen found)⟩

/-- A run of zeros that is met while a byte is read, before the reader is closed and after. -/
theorem run_refuses_met_run :
    ∃ r, NulReader.open (some [.bytes [7, 0], .bytes [8]]) 1 4 = .ok r ∧
      ((start r).run [.byte]).reader.closed = false ∧
      ((start r).run [.byte]).reader.found = some 1 ∧
      ((start r).run [.byte]).reader.Refuses (.nulRun 1) ∧
      ((start r).run [.byte, .close]).reader.closed = true ∧
      ((start r).run [.byte, .close]).reader.Refuses .closed := by
  have made : NulReader.open (some [.bytes [7, 0], .bytes [8]]) 1 4 =
      .ok ⟨[.bytes [7, 0], .bytes [8]], 0, 1, 4, [], 0, .initial, none, false, []⟩ := rfl
  have poisoned := (run_refuses made [.byte]).2 1 (by cbv) (by cbv)
  have closed := (run_refuses made [.byte, .close]).1 (by cbv)
  exact ⟨_, made, by cbv, by cbv, poisoned, by cbv, closed⟩

/-- A reader that is closed, and one that has met a run of zeros, still answer a read of no
bytes. -/
theorem idle_read_not_refused :
    ∃ r, NulReader.open (some [.bytes [0]]) 1 4 = .ok r ∧
      ((start r).run [.close]).reader.closed = true ∧
      (((start r).run [.close]).reader.read (some 0)).1 = .ok [] ∧
      ((start r).run [.byte]).reader.found = some 0 ∧
      (((start r).run [.byte]).reader.read (some 0)).1 = .ok [] :=
  ⟨_, rfl, by cbv, by cbv, by cbv, by cbv⟩

end Session

end TabAudit
