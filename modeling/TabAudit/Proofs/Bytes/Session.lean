import TabAudit.Proofs.Bytes.Reading
/-!
# Runs of calls on one reader

A session is a reader with the bytes it has handed over so far. `Session.Sound` ties the cursor,
the buffer, the scan and what was handed over to the bytes taken from the source. Every call keeps
it (`Sound.step`), so it holds after every run (`Sound.run`).
-/

namespace TabAudit

/-- A call on a reader. -/
inductive ReaderCall where
  | byte
  | block (length : Int)
  | into (length : Nat)
  | read (size : Option Int)
  | close
  | enter
  | leave
  deriving DecidableEq, Repr

/-- The bytes that a call hands over, or why it hands over none. -/
def ReaderCall.make : ReaderCall → NulReader → Except ReadFault (List UInt8) × NulReader
  | .byte, r => (r.readByte.1.map Option.toList, r.readByte.2)
  | .block length, r => r.readBlock length
  | .into length, r => r.serve length
  | .read size, r => r.read size
  | .close, r => (r.close.1.map fun _ => [], r.close.2)
  | .enter, r => (.ok [], r)
  | .leave, r => (.ok [], r.leave)

/-- Whether a call closes the reader, if it is open. -/
def ReaderCall.closes : ReaderCall → Bool
  | .close => true
  | .leave => true
  | _ => false

/-- A reader and the bytes it has handed over. -/
structure Session where
  reader : NulReader
  handed : List UInt8

namespace Session

/-- The session of a reader that nothing was asked of yet. -/
def start (r : NulReader) : Session := ⟨r, []⟩

/-- The session after a call with the given result. -/
def after (s : Session) : Except ReadFault (List UInt8) × NulReader → Session
  | (.ok bs, r) => ⟨r, s.handed ++ bs⟩
  | (.error _, r) => ⟨r, s.handed⟩

/-- The session after one more call. -/
def step (s : Session) (c : ReaderCall) : Session := s.after (c.make s.reader)

/-- The session after calls in a row. -/
def run (s : Session) (calls : List ReaderCall) : Session := calls.foldl step s

theorem reader_step (s : Session) (c : ReaderCall) :
    (s.step c).reader = (c.make s.reader).2 := by
  unfold step after
  split <;> simp_all

/-- What the scan of a reader says of the bytes taken. -/
def Scanned (r : NulReader) : Prop :=
  match r.found with
  | none => r.scan.Tracks r.threshold r.taken
  | some first => FirstZeroRun r.threshold r.taken first ∧
      r.scan.scanned = first + r.threshold ∧ r.buffer = []

/-- What was handed over and what is unread are the bytes taken, until a run of zeros is met. What
was handed over before that ends short of the run. -/
def Delivered (s : Session) : Prop :=
  match s.reader.found with
  | none => s.handed ++ s.reader.unread = s.reader.taken
  | some first => s.handed <+: s.reader.taken ∧ s.handed.length < first + s.reader.threshold

/-- What holds of every session on a reader over a source. -/
structure Sound (source : Source) (threshold capacity : Nat) (s : Session) : Prop where
  threshold_eq : s.reader.threshold = threshold
  capacity_eq : s.reader.capacity = capacity
  positive : 1 ≤ threshold
  within : s.reader.Within
  content : source.content = s.reader.taken ++ s.reader.source.content
  scanned : Scanned s.reader
  calm : source.NeverFails → s.reader.source.NeverFails
  delivered : source.NeverFails → s.Delivered

variable {source : Source} {threshold capacity : Nat} {s : Session}

/-! ## One call -/

/-- A session that has met no run yet knows where its scan stands. -/
theorem Sound.tracks (h : Sound source threshold capacity s) (clear : s.reader.found = none) :
    s.reader.scan.Tracks s.reader.threshold s.reader.taken := by
  have hs := h.scanned
  rwa [Scanned, clear] at hs

/-- A session that has met a run knows where it is. -/
theorem Sound.met (h : Sound source threshold capacity s) {first : Nat}
    (found : s.reader.found = some first) :
    FirstZeroRun threshold s.reader.taken first ∧ s.reader.scan.scanned = first + threshold ∧
      s.reader.buffer = [] := by
  have hs := h.scanned
  rwa [Scanned, found, h.threshold_eq] at hs

theorem found_of_clear {r : NulReader} (h : r.barred = none) : r.found = none := by
  unfold NulReader.barred at h
  split at h
  · simp at h
  · simpa using h

/-- What every read keeps, whatever it hands over. -/
theorem Sound.draws (h : Sound source threshold capacity s) {r : NulReader} {fresh bs : List UInt8}
    (draws : s.reader.Draws fresh r) (scanned : Scanned r)
    (delivered : source.NeverFails → Delivered ⟨r, bs⟩) :
    Sound source threshold capacity ⟨r, bs⟩ where
  threshold_eq := draws.threshold.trans h.threshold_eq
  capacity_eq := draws.capacity.trans h.capacity_eq
  positive := h.positive
  within := draws.within h.within
  content := by rw [h.content, draws.content, draws.taken, List.append_assoc]
  scanned := scanned
  calm := fun hn text hm => h.calm hn text (draws.failures text hm)
  delivered := delivered

/-- What the scan reports after the next bytes. -/
theorem Sound.reports (h : Sound source threshold capacity s) (clear : s.reader.found = none)
    {r : NulReader} {fresh : List UInt8} {met : Bool} (draws : s.reader.Draws fresh r)
    (scan : s.reader.scan.feed s.reader.threshold fresh = (r.scan, met)) :
    NulScan.Reports r.threshold r.taken (r.scan, met) := by
  have hr := (h.tracks clear).reports_feed fresh
  rwa [scan, ← draws.taken, ← draws.threshold] at hr

theorem Sound.after_proceeds (h : Sound source threshold capacity s)
    (clear : s.reader.found = none) {result : Except ReadFault (List UInt8) × NulReader}
    (hp : s.reader.Proceeds result) : Sound source threshold capacity (s.after result) := by
  have hd (hn : source.NeverFails) : s.handed ++ s.reader.unread = s.reader.taken := by
    have := h.delivered hn
    rwa [Delivered, clear] at this
  cases hp with
  | @hands fresh bs r draws scan found balance =>
    refine h.draws draws ?_ fun hn => ?_
    · rw [Scanned, found, clear]
      exact h.reports clear draws scan
    · simp only [Delivered, found, clear]
      rw [List.append_assoc, ← balance, ← List.append_assoc, hd hn, draws.taken]
  | @run fresh r draws scan found emptied =>
    have hr := h.reports clear draws scan
    refine h.draws draws ?_ fun hn => ?_
    · rw [Scanned, found]
      exact ⟨hr.1, hr.2, emptied⟩
    · -- What was handed over is a front of the bytes taken before, and the run ends behind these.
      have first := hr.1
      rw [draws.taken, draws.threshold] at first
      have hl := (h.tracks clear).lt_of_firstZeroRun first
      simp only [Delivered, found]
      rw [draws.taken, draws.threshold, ← hd hn, List.append_assoc]
      refine ⟨List.prefix_append _ _, ?_⟩
      have := congrArg List.length (hd hn)
      rw [List.length_append] at this
      omega
  | @failure fresh text r draws scan found failed =>
    refine h.draws draws ?_ fun hn => absurd failed (h.calm hn text)
    rw [Scanned, found, clear]
    exact h.reports clear draws scan

/-- What was handed over and what is pending are what the source held. -/
theorem Sound.content_eq (h : Sound source threshold capacity s) (clear : s.reader.found = none)
    (calm : source.NeverFails) : source.content = s.handed ++ s.reader.pending := by
  have delivered := h.delivered calm
  rw [Delivered, clear] at delivered
  rw [h.content, ← delivered, NulReader.pending, List.append_assoc]

/-- Only a run of zeros ends a read early, unless the source fails. -/
theorem Sound.run_of_error (h : Sound source threshold capacity s)
    (clear : s.reader.found = none) (calm : s.reader.source.NeverFails) {e : ReadFault}
    {r : NulReader} (hp : s.reader.Proceeds (.error e, r)) :
    ∃ k, ZeroRunAt threshold source.content k := by
  have after : Sound source threshold capacity ⟨r, s.handed⟩ := h.after_proceeds clear hp
  cases hp with
  | run draws scan found emptied =>
    have run := (after.met found).1.1.append r.source.content
    rw [← after.content] at run
    exact ⟨_, run⟩
  | failure draws scan found failed => exact absurd failed (calm _)

theorem Sound.after_settled (h : Sound source threshold capacity s)
    {result : Except ReadFault (List UInt8) × NulReader} (hs : s.reader.Settled result) :
    Sound source threshold capacity (s.after result) := by
  cases hs with
  | refused e => exact h
  | idle => simpa [after] using h
  | proceeds clear hp => exact h.after_proceeds (found_of_clear clear) hp

theorem close_of_closed {r : NulReader} (h : r.closed = true) : r.close = (.error .closed, r) := by
  rw [NulReader.close, if_pos h]

/-- An open reader closes its source with itself. -/
theorem close_of_open {r : NulReader} (h : r.closed = false) :
    r.close = (.ok (), { r with closed := true, sourceClosings := r.sourceClosings + 1 }) := by
  rw [NulReader.close, if_neg (by simp [h])]

/-- Closing a reader changes nothing that a session is about. -/
theorem Sound.closed (h : Sound source threshold capacity s) :
    Sound source threshold capacity ⟨s.reader.close.2, s.handed⟩ := by
  cases hx : s.reader.closed with
  | true => rwa [close_of_closed hx]
  | false =>
    rw [close_of_open hx]
    exact { h with }

/-- A call that does not close the reader is a read, or asks for nothing. -/
theorem make_settled {c : ReaderCall} (h : c.closes = false) (r : NulReader) :
    r.Settled (c.make r) := by
  cases c with
  | byte => exact r.readByte_settled
  | block length => exact r.readBlock_settled length
  | into length => exact r.serve_settled length
  | read size => exact r.read_settled size
  | enter => exact .idle
  | close => cases h
  | leave => cases h

/-- A call that closes the reader hands nothing over. -/
theorem make_of_closes {c : ReaderCall} (h : c.closes = true) (r : NulReader) :
    (c.make r).2 = r.close.2 ∧ ((c.make r).1 = .ok [] ∨ (c.make r).1 = .error .closed) := by
  cases c with
  | close =>
    cases hx : r.closed with
    | true => simp [ReaderCall.make, close_of_closed hx, Except.map]
    | false => simp [ReaderCall.make, close_of_open hx, Except.map]
  | leave => exact ⟨rfl, .inl rfl⟩
  | _ => cases h

/-- A call is a read or closes the reader, if it does anything. -/
theorem make_cases (c : ReaderCall) (r : NulReader) :
    r.Settled (c.make r) ∨ (c.make r).2 = r ∨ (r.closed = false ∧
      (c.make r).2 = { r with closed := true, sourceClosings := r.sourceClosings + 1 }) := by
  cases hc : c.closes with
  | false => exact .inl (make_settled hc r)
  | true =>
    rw [(make_of_closes hc r).1]
    cases hx : r.closed with
    | true => exact .inr (.inl (by rw [close_of_closed hx]))
    | false => exact .inr (.inr ⟨rfl, by rw [close_of_open hx]⟩)

theorem step_of_closes {c : ReaderCall} (h : c.closes = true) (s : Session) :
    s.step c = ⟨s.reader.close.2, s.handed⟩ := by
  obtain ⟨reader, outcome⟩ := make_of_closes h s.reader
  rw [← reader, step]
  generalize c.make s.reader = result at outcome
  obtain ⟨outcome, r⟩ := result
  rcases outcome with rfl | rfl <;> simp [after]

theorem Sound.step (h : Sound source threshold capacity s) (c : ReaderCall) :
    Sound source threshold capacity (s.step c) := by
  cases hc : c.closes with
  | false => exact h.after_settled (make_settled hc s.reader)
  | true => exact (step_of_closes hc s).symm ▸ h.closed

theorem Sound.run (h : Sound source threshold capacity s) (calls : List ReaderCall) :
    Sound source threshold capacity (s.run calls) := by
  induction calls generalizing s with
  | nil => exact h
  | cons c calls ih => exact ih (h.step c)

/-- What every call keeps of a reader is kept by calls in a row. -/
theorem run_keeps {P : NulReader → Prop} (step : ∀ (c : ReaderCall) {r}, P r → P (c.make r).2)
    (h : P s.reader) (calls : List ReaderCall) : P (s.run calls).reader := by
  induction calls generalizing s with
  | nil => exact h
  | cons c calls ih => exact ih (by rw [reader_step]; exact step c h)

/-! ## Runs that have come to an end -/

theorem after_settled_of_barred (h : s.reader.barred ≠ none)
    {result : Except ReadFault (List UInt8) × NulReader} (hs : s.reader.Settled result) :
    s.after result = s := by
  cases hs with
  | refused e => rfl
  | idle => simp [after]
  | proceeds clear hp => exact absurd clear h

theorem close_barred (r : NulReader) : r.close.2.barred ≠ none := by
  unfold NulReader.close
  split <;> simp_all [NulReader.barred]

/-- A barred reader stays barred and hands over nothing more. -/
theorem step_of_barred (h : s.reader.barred ≠ none) (c : ReaderCall) :
    (s.step c).handed = s.handed ∧ (s.step c).reader.barred ≠ none := by
  cases hc : c.closes with
  | false =>
    rw [step, after_settled_of_barred h (make_settled hc s.reader)]
    exact ⟨rfl, h⟩
  | true =>
    rw [step_of_closes hc]
    exact ⟨rfl, close_barred s.reader⟩

theorem handed_run_of_barred (h : s.reader.barred ≠ none) (calls : List ReaderCall) :
    (s.run calls).handed = s.handed := by
  induction calls generalizing s with
  | nil => rfl
  | cons c calls ih =>
    obtain ⟨hs, hb⟩ := step_of_barred h c
    exact (ih hb).trans hs

theorem barred_of_found {r : NulReader} {first : Nat} (h : r.found = some first) :
    r.barred ≠ none := by
  unfold NulReader.barred
  split <;> simp [h]

/-! ## From the start -/

/-- Sizes of at least one make a reader unless memory cannot hold its buffer. -/
theorem open_eq (source : Source) {threshold capacity : Nat} (ht : 1 ≤ threshold)
    (hc : 1 ≤ capacity) :
    NulReader.open (some source) threshold capacity = match memoryFault? capacity with
      | some fault => .error (.memory fault)
      | none => .ok ⟨source, 0, threshold, capacity, [], 0, .initial, none, false, []⟩ := by
  have h₁ : ¬ (threshold : Int) < 1 := by omega
  have h₂ : ¬ (capacity : Int) < 1 := by omega
  cases hm : memoryFault? capacity with
  | some fault => simp only [NulReader.open, if_neg h₁, if_neg h₂, Int.toNat_natCast, hm]
  | none => simp only [NulReader.open, if_neg h₁, if_neg h₂, Int.toNat_natCast, hm]

/-- A reader that was made has asked its source for nothing yet. -/
theorem open_ok {source : Source} {threshold capacity : Nat} {r : NulReader}
    (ht : 1 ≤ threshold) (hc : 1 ≤ capacity)
    (h : NulReader.open (some source) threshold capacity = .ok r) :
    memoryFault? capacity = none ∧
      r = ⟨source, 0, threshold, capacity, [], 0, .initial, none, false, []⟩ := by
  rw [open_eq source ht hc] at h
  cases fits : memoryFault? capacity with
  | some fault => simp [fits] at h
  | none =>
    simp only [fits, Except.ok.injEq] at h
    exact ⟨rfl, h.symm⟩

theorem sound_start {source : Source} {threshold capacity : Nat} {r : NulReader}
    (ht : 1 ≤ threshold) (hc : 1 ≤ capacity)
    (h : NulReader.open (some source) threshold capacity = .ok r) :
    Sound source threshold capacity (start r) := by
  obtain ⟨-, rfl⟩ := open_ok ht hc h
  exact {
    threshold_eq := rfl
    capacity_eq := rfl
    positive := ht
    within := ⟨Nat.le_refl 0, Nat.zero_le _⟩
    content := rfl
    scanned := NulScan.tracks_initial ht
    calm := id
    delivered := fun _ => rfl }

/-- Whatever is asked of a reader, its scan knows the first run of zeros among the bytes taken, and
unless the source fails, what it hands over and what is left in the buffer are those bytes in
order; from a run of zeros on it hands over nothing. -/
theorem run_scans_and_delivers {source : Source} {threshold capacity : Nat} {r : NulReader}
    (ht : 1 ≤ threshold) (hc : 1 ≤ capacity)
    (h : NulReader.open (some source) threshold capacity = .ok r) (calls : List ReaderCall) :
    let s := (start r).run calls
    let taken := s.reader.taken
    source.content = taken ++ s.reader.source.content ∧
    (s.reader.found.isSome ↔ ∃ k, ZeroRunAt threshold taken k) ∧
    (s.reader.found = none → s.reader.scan.scanned = taken.length) ∧
    (∀ first, s.reader.found = some first →
      FirstZeroRun threshold taken first ∧ s.reader.scan.scanned = first + threshold) ∧
    (source.NeverFails →
      s.reader.pos ≤ s.reader.buffer.length ∧ s.reader.buffer.length ≤ capacity ∧
      (s.reader.found = none → s.handed ++ s.reader.unread = taken) ∧
      ∀ first, s.reader.found = some first →
        s.handed <+: taken ∧ s.handed.length < first + threshold ∧ s.reader.buffer = [] ∧
        ∀ more, (s.run more).handed = s.handed) := by
  intro s taken
  have hs : Sound source threshold capacity s := (sound_start ht hc h).run calls
  refine ⟨hs.content, ?_, ?_, fun first hf => ⟨(hs.met hf).1, (hs.met hf).2.1⟩,
    fun hn => ⟨hs.within.1, hs.capacity_eq ▸ hs.within.2, fun hf => ?_, fun first hf => ?_⟩⟩
  · cases hf : s.reader.found with
    | none => simpa [hs.threshold_eq] using (hs.tracks hf).clear
    | some first => simpa using ⟨first, (hs.met hf).1.1⟩
  · exact fun hf => (hs.tracks hf).scanned
  · have hd := hs.delivered hn
    rwa [Delivered, hf] at hd
  · have hd := hs.delivered hn
    rw [Delivered, hf, hs.threshold_eq] at hd
    exact ⟨hd.1, hd.2, (hs.met hf).2.2, handed_run_of_barred (barred_of_found hf)⟩

/-- Two zeros that come in two answers, behind an answer of nothing. -/
theorem split_run_found :
    ∃ r, NulReader.open (some [.bytes [7], .nothing, .bytes [0], .bytes [0, 7]])
        (2 : Nat) (3 : Nat) = .ok r ∧
      let s := (start r).run [.byte, .block 1, .read (some 9)]
      s.reader.found = some 1 ∧ FirstZeroRun 2 s.reader.taken 1 ∧ s.reader.scan.scanned = 3 ∧
        s.handed = [7] ∧ s.handed <+: s.reader.taken := by
  refine ⟨_, rfl, ?_⟩
  have found : ((start ⟨[.bytes [7], .nothing, .bytes [0], .bytes [0, 7]], 0, 2, 3, [], 0,
      .initial, none, false, []⟩).run [.byte, .block 1, .read (some 9)]).reader.found
        = some 1 := by cbv
  have handed : ((start ⟨[.bytes [7], .nothing, .bytes [0], .bytes [0, 7]], 0, 2, 3, [], 0,
      .initial, none, false, []⟩).run [.byte, .block 1, .read (some 9)]).handed = [7] := by cbv
  obtain ⟨-, -, -, met, calm⟩ := run_scans_and_delivers (show 1 ≤ 2 by decide)
    (show 1 ≤ 3 by decide)
    (show NulReader.open (some [.bytes [7], .nothing, .bytes [0], .bytes [0, 7]])
      (2 : Nat) (3 : Nat) = .ok _ from rfl) [.byte, .block 1, .read (some 9)]
  have still := (calm (by simp [Source.NeverFails])).2.2.2 1 found
  exact ⟨found, (met 1 found).1, (met 1 found).2, handed, still.1⟩

end Session

end TabAudit
