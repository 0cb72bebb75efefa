import TabAudit.Bytes.NulScan
import TabAudit.Bytes.Source
import TabAudit.Log
import TabAudit.Memory
/-!
# Reading with an eye on zero bytes

A reader hands on the bytes of a source through a buffer and scans each byte once, in order,
before anyone sees it. A run of zero bytes of the threshold's length stops it for good, as does
closing it. Small requests are served from the buffer; one at least as large as the buffer goes to
the source directly.
-/

namespace TabAudit

/-- Why a read gives no bytes. -/
inductive ReadFault where
  /-- A run of zero bytes begins at this offset. -/
  | nulRun (offset : Nat)
  | closed
  /-- The source failed with this text. -/
  | source (text : String)
  /-- A block of this length was asked for, which is below one. -/
  | lengthNotPositive (length : Int)
  /-- A block was asked for that memory cannot hold. -/
  | memory (fault : MemoryFault)
  deriving DecidableEq, Repr

/-- Why a reader cannot be made. -/
inductive OpenFault where
  | noSource
  | thresholdNotPositive (value : Int)
  | capacityNotPositive (value : Int)
  | memory (fault : MemoryFault)
  deriving DecidableEq, Repr

/-- What a reader did besides answering. -/
inductive ReaderEvent where
  /-- It asked the source for so many bytes and got so many, nothing, or a failure. -/
  | sourceCall (asked : Nat) (answer : SourceAnswer)
  /-- It met a run of zero bytes. -/
  | nulRun (length offset : Nat)
  deriving DecidableEq, Repr

/-- The log record of an event. -/
def ReaderEvent.record? : ReaderEvent → Option LogRecord
  | .sourceCall .. => none
  | .nulRun length offset => some (Log.debug s!"NUL run of {length} byte(s) at offset {offset}")

/-- A reader over a source. `sourceClosings` counts how often it closed the source; `buffer` is the
filled part of the buffer and `pos` the cursor in it; `found` is where the run of zero bytes began
that stopped the reader. -/
structure NulReader where
  source : Source
  sourceClosings : Nat
  threshold : Nat
  capacity : Nat
  buffer : List UInt8
  pos : Nat
  scan : NulScan
  found : Option Nat
  closed : Bool
  events : List ReaderEvent
  deriving Repr

/-- The bytes that a request stored into its target, and how many it reports. -/
structure Delivery where
  stored : List UInt8
  outcome : Except ReadFault Nat

namespace NulReader

/-- A new reader. Both sizes must be at least one. -/
def «open» (source : Option Source) (threshold capacity : Int) : Except OpenFault NulReader :=
  match source with
  | none => .error .noSource
  | some source =>
    if threshold < 1 then .error (.thresholdNotPositive threshold)
    else if capacity < 1 then .error (.capacityNotPositive capacity)
    else
      match memoryFault? capacity.toNat with
      | some fault => .error (.memory fault)
      | none =>
        .ok ⟨source, 0, threshold.toNat, capacity.toNat, [], 0, .initial, none, false, []⟩

/-- The bytes that are buffered and not yet handed on. -/
def unread (r : NulReader) : List UInt8 := r.buffer.drop r.pos

/-- The bytes that the reader can still hand on. -/
def pending (r : NulReader) : List UInt8 := r.unread ++ r.source.content

/-- Whether the reader has closed its source. -/
def sourceClosed (r : NulReader) : Bool := 0 < r.sourceClosings

/-- Why no read can succeed any more, if so. -/
def barred (r : NulReader) : Option ReadFault :=
  if r.closed then some .closed else r.found.map .nulRun

/-- One request to the source. -/
def pull (r : NulReader) (limit : Nat) : Except ReadFault (List UInt8) × NulReader :=
  let (answer, source) := r.source.answer limit
  let r := { r with source := source, events := r.events ++ [.sourceCall limit answer] }
  match answer with
  | .bytes bs => (.ok bs, r)
  | .nothing => (.ok [], r)
  | .failure text => (.error (.source text), r)

/-- Scans bytes that came from the source. -/
def inspect (r : NulReader) (bs : List UInt8) : Except ReadFault Unit × NulReader :=
  match r.scan.feed r.threshold bs with
  | (scan, false) => (.ok (), { r with scan := scan })
  | (scan, true) =>
    (.error (.nulRun scan.start),
      { r with scan := scan, found := some scan.start,
               events := r.events ++ [.nulRun scan.run scan.start] })

/-- Empties the buffer. -/
def reset (r : NulReader) : NulReader := { r with buffer := [], pos := 0 }

/-- Fills the buffer anew, and tells how many bytes it holds. -/
def fill (r : NulReader) : Except ReadFault Nat × NulReader :=
  match r.reset.pull r.capacity with
  | (.error e, r) => (.error e, r)
  | (.ok bs, r) =>
    match r.inspect bs with
    | (.error e, r) => (.error e, r)
    | (.ok (), r) => (.ok bs.length, { r with buffer := bs })

/-- The next byte, or nothing at the end. -/
def readByte (r : NulReader) : Except ReadFault (Option UInt8) × NulReader :=
  match r.barred with
  | some e => (.error e, r)
  | none =>
    match r.unread with
    | b :: _ => (.ok (some b), { r with pos := r.pos + 1 })
    | [] =>
      match r.fill with
      | (.error e, r) => (.error e, r)
      | (.ok _, r) =>
        match r.buffer with
        | b :: _ => (.ok (some b), { r with pos := 1 })
        | [] => (.ok none, r)

/-- Stores the next bytes into a target of the given length. -/
def readInto (r : NulReader) (length : Nat) : Delivery × NulReader :=
  match r.barred with
  | some e => (⟨[], .error e⟩, r)
  | none =>
    let held := r.unread
    if length ≤ held.length then
      (⟨held.take length, .ok length⟩, { r with pos := r.pos + length })
    else
      let missing := length - held.length
      if r.capacity ≤ missing then
        match r.reset.pull missing with
        | (.error e, r) => (⟨held, .error e⟩, r)
        | (.ok bs, r) =>
          match r.inspect bs with
          | (.error e, r) => (⟨held ++ bs, .error e⟩, r)
          | (.ok (), r) => (⟨held ++ bs, .ok (held.length + bs.length)⟩, r)
      else
        match r.fill with
        | (.error e, r) => (⟨held, .error e⟩, r)
        | (.ok n, r) =>
          (⟨held ++ r.buffer.take missing, .ok (held.length + min missing n)⟩,
            { r with pos := min missing n })

/-- At most the given number of bytes; none only at the end of the source. -/
def readBlock (r : NulReader) (length : Int) : Except ReadFault (List UInt8) × NulReader :=
  if length < 1 then (.error (.lengthNotPositive length), r)
  else
    match memoryFault? length.toNat with
    | some fault => (.error (.memory fault), r)
    | none =>
      match r.readInto length.toNat with
      | (⟨_, .error e⟩, r) => (.error e, r)
      | (⟨stored, .ok _⟩, r) => (.ok stored, r)

/-! ## What a read takes from what is pending -/

theorem pull_ok {r r' : NulReader} {limit : Nat} {bs : List UInt8}
    (h : r.pull limit = (.ok bs, r')) :
    r.source.content = bs ++ r'.source.content ∧ r'.buffer = r.buffer ∧ r'.pos = r.pos := by
  unfold pull at h
  match ha : r.source.answer limit with
  | (.bytes content, source) =>
    simp only [ha, Prod.mk.injEq, Except.ok.injEq] at h
    obtain ⟨rfl, rfl⟩ := h
    exact ⟨Source.content_answer_bytes ha, rfl, rfl⟩
  | (.nothing, source) =>
    simp only [ha, Prod.mk.injEq, Except.ok.injEq] at h
    obtain ⟨rfl, rfl⟩ := h
    exact ⟨Source.content_answer_nothing ha, rfl, rfl⟩
  | (.failure text, source) => simp [ha] at h

theorem inspect_ok {r r' : NulReader} {bs : List UInt8} (h : r.inspect bs = (.ok (), r')) :
    r'.source = r.source ∧ r'.buffer = r.buffer ∧ r'.pos = r.pos := by
  unfold inspect at h
  split at h
  · simp only [Prod.mk.injEq, true_and] at h
    subst h
    exact ⟨rfl, rfl, rfl⟩
  · simp at h

theorem fill_ok {r r' : NulReader} {n : Nat} (h : r.fill = (.ok n, r')) :
    r.source.content = r'.buffer ++ r'.source.content ∧ r'.buffer.length = n ∧ r'.pos = 0 := by
  unfold fill at h
  split at h
  · simp at h
  · rename_i bs r₁ hp
    obtain ⟨hc, -, hq⟩ := pull_ok hp
    split at h
    · simp at h
    · rename_i r₂ hi
      obtain ⟨hs, -, hpos⟩ := inspect_ok hi
      simp only [Prod.mk.injEq, Except.ok.injEq] at h
      obtain ⟨rfl, rfl⟩ := h
      refine ⟨?_, rfl, ?_⟩
      · simpa [hs, reset] using hc
      · simpa [reset] using hpos.trans hq

theorem pending_readInto {r r' : NulReader} {length n : Nat} {stored : List UInt8}
    (h : r.readInto length = (⟨stored, .ok n⟩, r')) :
    r.pending = stored ++ r'.pending ∧ stored.length = n := by
  unfold readInto at h
  split at h
  · simp at h
  · simp only at h
    split at h
    · rename_i hl
      simp only [Prod.mk.injEq, Delivery.mk.injEq, Except.ok.injEq] at h
      obtain ⟨⟨rfl, rfl⟩, rfl⟩ := h
      refine ⟨?_, by simp [Nat.min_eq_left hl]⟩
      simp only [pending, unread]
      rw [← List.append_assoc, ← List.drop_drop, List.take_append_drop]
    · split at h
      · split at h
        · simp at h
        · rename_i bs r₁ hp
          obtain ⟨hc, hb, hq⟩ := pull_ok hp
          split at h
          · simp at h
          · rename_i r₂ hi
            obtain ⟨hs, hb', hq'⟩ := inspect_ok hi
            simp only [Prod.mk.injEq, Delivery.mk.injEq, Except.ok.injEq] at h
            obtain ⟨⟨rfl, rfl⟩, rfl⟩ := h
            refine ⟨?_, by simp⟩
            have hu : r₂.unread = [] := by simp [unread, hb', hb, reset]
            have hc' : r.source.content = bs ++ r₂.source.content := by
              simpa [hs, reset] using hc
            simp [pending, hu, hc']
      · split at h
        · simp at h
        · rename_i k r₁ hf
          obtain ⟨hc, hlen, hq⟩ := fill_ok hf
          simp only [Prod.mk.injEq, Delivery.mk.injEq, Except.ok.injEq] at h
          obtain ⟨⟨rfl, rfl⟩, rfl⟩ := h
          refine ⟨?_, by simp [hlen]⟩
          have hm : ∀ m, r₁.buffer.take m ++ r₁.buffer.drop (min m r₁.buffer.length) =
              r₁.buffer := by
            intro m
            rcases Nat.le_total m r₁.buffer.length with hle | hle
            · rw [Nat.min_eq_left hle, List.take_append_drop]
            · rw [Nat.min_eq_right hle, List.take_of_length_le hle, List.drop_length,
                List.append_nil]
          simp only [pending, unread, hc, ← hlen, List.append_assoc]
          rw [← List.append_assoc (List.take _ _), hm]

theorem pending_readBlock {r r' : NulReader} {length : Int} {block : List UInt8}
    (h : r.readBlock length = (.ok block, r')) : r.pending = block ++ r'.pending := by
  unfold readBlock at h
  split at h
  · simp at h
  · split at h
    · simp at h
    · split at h
      · simp at h
      · rename_i stored n r₁ hr
        simp only [Prod.mk.injEq, Except.ok.injEq] at h
        obtain ⟨rfl, rfl⟩ := h
        exact (pending_readInto hr).1

/-! ## Reading on -/

/-- Blocks until the given number of bytes is there or the source ends. -/
def readUpTo (r : NulReader) (length : Nat) : Except ReadFault (List UInt8) × NulReader :=
  if length = 0 then (.ok [], r)
  else
    match r.readBlock length with
    | (.error e, r) => (.error e, r)
    | (.ok [], r) => (.ok [], r)
    | (.ok (b :: bs), r) =>
      match r.readUpTo (length - (bs.length + 1)) with
      | (.error e, r) => (.error e, r)
      | (.ok rest, r) => (.ok (b :: bs ++ rest), r)
termination_by length

/-- Blocks of the buffer's size until the source ends. -/
def readToEnd (r : NulReader) : Except ReadFault (List UInt8) × NulReader :=
  match _h : r.readBlock r.capacity with
  | (.error e, r) => (.error e, r)
  | (.ok [], r) => (.ok [], r)
  | (.ok (b :: bs), r) =>
    match r.readToEnd with
    | (.error e, r) => (.error e, r)
    | (.ok rest, r) => (.ok (b :: bs ++ rest), r)
termination_by r.pending.length
decreasing_by
  have := congrArg List.length (pending_readBlock _h)
  simp only [List.length_append, List.length_cons] at this
  omega

/-- So many bytes if the source has them; all that is left when no size, or one below zero, is
given. -/
def read (r : NulReader) (size : Option Int) : Except ReadFault (List UInt8) × NulReader :=
  match size with
  | none => r.readToEnd
  | some n => if n < 0 then r.readToEnd else r.readUpTo n.toNat

/-- Closes the reader and its source. -/
def close (r : NulReader) : Except ReadFault Unit × NulReader :=
  if r.closed then (.error .closed, r)
  else
    (.ok (), { r with closed := true, sourceClosings := r.sourceClosings + 1 })

/-- Leaves the block that a reader serves: it is closed unless it already is. -/
def leave (r : NulReader) : NulReader := r.close.2

end NulReader

def ReadFault.message : ReadFault → String
  | .nulRun offset => s!"NUL character found in input at byte position {offset}"
  | .closed => "Stream closed"
  | .source text => text
  | .lengthNotPositive length => s!"max_length must be positive, but is {length}"
  | .memory fault => fault.message

def OpenFault.message : OpenFault → String
  | .noSource => "source must not be None"
  | .thresholdNotPositive value => s!"nul_run_threshold must be positive, but is {value}"
  | .capacityNotPositive value => s!"buffer_size must be positive, but is {value}"
  | .memory fault => fault.message

end TabAudit
