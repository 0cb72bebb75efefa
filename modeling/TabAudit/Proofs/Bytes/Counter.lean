import TabAudit.Proofs.Bytes.Refusal

/-!
# The scan and a counter of zeros

A counter goes through bytes one at a time. It goes up at a zero, falls back at any other byte, and
stops once it has come to the threshold. A reader that scans the same bytes in pieces ends where the
counter does, however they are cut, and knows where the zeros that were counted begin.
-/

namespace TabAudit

/-- A counter of zeros: how many bytes it has gone through, and how many zeros are the last of
them. -/
structure ZeroCounter where
  seen : Nat
  run : Nat
  deriving DecidableEq, Repr

namespace ZeroCounter

/-- Nothing gone through yet. -/
def initial : ZeroCounter := ⟨0, 0⟩

/-- The counter after one more byte. -/
def next (c : ZeroCounter) (b : UInt8) : ZeroCounter :=
  ⟨c.seen + 1, if b = 0 then c.run + 1 else 0⟩

/-- The counter after further bytes, unless it has come to the threshold before. -/
def count (threshold : Nat) (c : ZeroCounter) : List UInt8 → ZeroCounter
  | [] => c
  | b :: bs => if c.run = threshold then c else (c.next b).count threshold bs

/-- Where the zeros begin that have stopped the counter, if it has stopped. -/
def stop? (threshold : Nat) (c : ZeroCounter) : Option Nat :=
  if c.run = threshold then some (c.seen - c.run) else none

variable {threshold : Nat} {c : ZeroCounter}

theorem count_of_stopped (stopped : c.run = threshold) (bs : List UInt8) :
    c.count threshold bs = c := by
  cases bs with
  | nil => rfl
  | cons b bs => exact if_pos stopped

theorem count_cons (short : c.run < threshold) (b : UInt8) (bs : List UInt8) :
    c.count threshold (b :: bs) = (c.next b).count threshold bs :=
  if_neg (Nat.ne_of_lt short)

end ZeroCounter

/-- The zeros up to `last`, of which there is at least one, begin at `first`. -/
structure ZerosFrom (bs : List UInt8) (first last : Nat) : Prop where
  some_ : first < last
  zeros : ∀ i, first ≤ i → i < last → bs[i]? = some 0
  /-- The byte before them is no zero. -/
  before : ∀ i, i + 1 = first → bs[i]? ≠ some 0

namespace NulScan

variable {threshold : Nat} {s : NulScan} {bs : List UInt8}

/-! ## One piece -/

/-- What a counter knows of where a scan stands. -/
def counter (s : NulScan) : ZeroCounter := ⟨s.scanned, s.run⟩

theorem counter_zero (s : NulScan) : s.zero.counter = s.counter.next 0 := rfl

theorem counter_other (s : NulScan) {b : UInt8} (h : b ≠ 0) :
    s.other.counter = s.counter.next b := by
  simp [counter, other, ZeroCounter.next, h]

/-- A piece leads a scan to where it leads the counter, and completes a run just if the counter
stops in it. -/
theorem counter_count (short : s.run < threshold) (bs : List UInt8) :
    (count threshold s bs).1.counter = s.counter.count threshold bs ∧
      ((count threshold s bs).2 = true ↔ (s.counter.count threshold bs).run = threshold) := by
  induction bs generalizing s with
  | nil => exact ⟨rfl, by simpa [count, ZeroCounter.count, counter] using Nat.ne_of_lt short⟩
  | cons b bs ih =>
    have onward := ZeroCounter.count_cons (c := s.counter) short b bs
    rw [onward, count]
    by_cases hb : b = 0
    · subst hb
      rw [if_pos rfl, ← counter_zero]
      by_cases full : threshold ≤ s.run + 1
      · have stopped : s.zero.counter.run = threshold := Nat.le_antisymm short full
        rw [if_pos full, ZeroCounter.count_of_stopped stopped]
        exact ⟨rfl, by simpa using stopped⟩
      · rw [if_neg full]
        exact ih (show s.run + 1 < threshold by omega)
    · rw [if_neg hb, ← counter_other s hb]
      exact ih (show 0 < threshold by omega)

theorem Tracks.zerosFrom (h : Tracks threshold s bs) (run : s.run ≠ 0) :
    ZerosFrom bs s.start s.scanned where
  some_ := by
    have := h.start run
    rw [h.scanned]
    omega
  zeros i behind inside := by
    have := h.start run
    rw [h.scanned] at inside
    exact h.zeros i (by omega) inside
  before i next := by
    have := h.start run
    exact h.ended i (by omega)

end NulScan

/-- The byte before the first run is no zero, as else the run would begin there. -/
theorem FirstZeroRun.zerosFrom {size first : Nat} {bs : List UInt8}
    (h : FirstZeroRun size bs first) (hs : 0 < size) : ZerosFrom bs first (first + size) where
  some_ := by omega
  zeros i behind inside := by
    have zero := h.1 (i - first) (by omega)
    rwa [Nat.add_sub_cancel' behind] at zero
  before i next zero := by
    refine h.2 i (by omega) fun j hj => ?_
    cases j with
    | zero => exact zero
    | succ j =>
      have := h.1 j (by omega)
      rwa [← next, Nat.add_right_comm, Nat.add_assoc] at this

namespace NulScan

/-- A scan knows where the zeros that it counts begin. -/
theorem Reports.zerosFrom {threshold : Nat} {bs : List UInt8} {out : NulScan × Bool}
    (h : Reports threshold bs out) (ht : 1 ≤ threshold) (run : out.1.run ≠ 0) :
    ZerosFrom bs out.1.start out.1.scanned := by
  obtain ⟨s, met⟩ := out
  cases met with
  | true =>
    obtain ⟨first, scanned⟩ := h
    rw [show (s, true).1.scanned = s.start + threshold from scanned]
    exact first.zerosFrom ht
  | false => exact Tracks.zerosFrom h run

/-- A run that is found begins where the counter says. -/
theorem Reports.stop? {threshold : Nat} {bs : List UInt8} {out : NulScan × Bool}
    (h : Reports threshold bs out) (stops : out.2 = true ↔ out.1.run = threshold) :
    out.1.counter.stop? threshold = if out.2 = true then some out.1.start else none := by
  obtain ⟨s, met⟩ := out
  cases met with
  | true =>
    have scanned : s.scanned = s.start + threshold := h.2
    have stopped : s.run = threshold := stops.mp rfl
    simp [ZeroCounter.stop?, counter, scanned, stopped]
  | false =>
    have goes : s.run ≠ threshold := fun stopped => by simpa using stops.mpr stopped
    simp [ZeroCounter.stop?, counter, goes]

end NulScan

namespace NulReader

/-! ## Pieces in turn -/

/-- Scans pieces in turn, up to the one in which a run of zeros is completed. -/
def inspectAll (r : NulReader) : List (List UInt8) → Except ReadFault Unit × NulReader
  | [] => (.ok (), r)
  | piece :: pieces =>
    match r.inspect piece with
    | (.error e, r) => (.error e, r)
    | (.ok (), r) => r.inspectAll pieces

/-- Pieces that are scanned in turn are scanned as the bytes that they make up. -/
theorem inspectAll_eq_inspect (r : NulReader) (pieces : List (List UInt8)) :
    r.inspectAll pieces = r.inspect pieces.flatten := by
  induction pieces generalizing r with
  | nil =>
    rw [inspectAll, List.flatten_nil, inspect, feed_nil]
  | cons piece pieces ih =>
    rw [inspectAll, List.flatten_cons]
    unfold inspect
    rw [NulScan.feed_append]
    rcases r.scan.feed r.threshold piece with ⟨scan, _ | _⟩
    · exact ih { r with scan := scan }
    · rfl

/-- However bytes are cut into pieces, a new reader that scans the pieces in turn ends as the
counter does: at the same byte, with as many zeros counted, and with a run of zeros found just if
the counter has stopped, and where it says. The start that it remembers for the zeros counted is
where they begin. -/
theorem inspectAll_counts {source : Source} {threshold capacity : Nat} {r : NulReader}
    (opened : NulReader.open (some source) threshold capacity = .ok r)
    (pieces : List (List UInt8)) :
    let c := ZeroCounter.initial.count threshold pieces.flatten
    let out := r.inspectAll pieces
    out.2.scan.scanned = c.seen ∧ out.2.scan.run = c.run ∧
      out.1 = (match c.stop? threshold with
        | some first => .error (.nulRun first)
        | none => .ok ()) ∧
      out.2.found = c.stop? threshold ∧
      (out.2.scan.run ≠ 0 → ZerosFrom pieces.flatten out.2.scan.start out.2.scan.scanned) := by
  intro c
  obtain ⟨-, -, positive, room, -⟩ := open_eq_ok opened
  have ht : 1 ≤ threshold := by omega
  obtain ⟨-, rfl⟩ := Session.open_ok ht (by omega) opened
  have counted := NulScan.counter_count (s := .initial) ht pieces.flatten
  have reports := (NulScan.tracks_initial ht).reports_feed pieces.flatten
  rw [← NulScan.feed_eq_count] at counted
  rw [inspectAll_eq_inspect, inspect]
  dsimp only
  generalize NulScan.feed threshold .initial pieces.flatten = out at counted reports
  have begins := reports.zerosFrom ht
  obtain ⟨stands, stops⟩ : out.1.counter = c ∧ (out.2 = true ↔ c.run = threshold) := counted
  rw [← stands] at stops
  have told := reports.stop? stops
  rw [stands] at told
  rw [told]
  obtain ⟨scan, met⟩ := out
  have seen : scan.scanned = c.seen := congrArg ZeroCounter.seen stands
  have run : scan.run = c.run := congrArg ZeroCounter.run stands
  cases met with
  | true => exact ⟨seen, run, rfl, rfl, begins⟩
  | false => exact ⟨seen, run, rfl, rfl, begins⟩

/-- Zeros at the end of a piece are the front of a run that the next one completes. -/
theorem inspectAll_counts_cut :
    ∃ r, NulReader.open (some []) (3 : Nat) (1 : Nat) = .ok r ∧
      let out := r.inspectAll [[0], [0, 7, 0], [], [0, 0, 0, 9]]
      out.1 = .error (.nulRun 3) ∧ out.2.scan.scanned = 6 ∧ out.2.scan.run = 3 ∧
        ZerosFrom [0, 0, 7, 0, 0, 0, 0, 9] out.2.scan.start out.2.scan.scanned := by
  refine ⟨_, rfl, ?_⟩
  obtain ⟨seen, run, outcome, -, begins⟩ := inspectAll_counts
    (show NulReader.open (some []) (3 : Nat) (1 : Nat) = .ok _ from rfl)
    [[0], [0, 7, 0], [], [0, 0, 0, 9]]
  exact ⟨outcome, seen, run, begins (run ▸ by decide)⟩

end NulReader

end TabAudit
