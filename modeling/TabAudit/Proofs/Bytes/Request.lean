import TabAudit.Proofs.Bytes.Closing

/-!
# One request

A request for no more than is unread is served from the buffer. Any other asks the source once, for
what is missing or for a whole buffer, whichever is more; it hands over what was unread and as much
of the answer as there is room for, and keeps the rest. `Fulfils` says so of the reader before and
after, and `run_fulfils` of every request after any calls.
-/

namespace TabAudit

/-- The target of a request after it: what was stored, and behind that what it held before. -/
def Delivery.onto (d : Delivery) (before : List UInt8) : List UInt8 :=
  d.stored ++ before.drop d.stored.length

namespace NulReader

/-- How many bytes a request for more than is unread asks the source for. -/
def asked (r : NulReader) (length : Nat) : Nat := max (length - r.unread.length) r.capacity

/-- What the source says to that. -/
def reply (r : NulReader) (length : Nat) : SourceAnswer := (r.source.answer (r.asked length)).1

/-- What a request for some bytes comes to: how the source is asked, how many bytes are reported,
and which they are. -/
structure Fulfils (r : NulReader) (length : Nat) (d : Delivery) (r' : NulReader) : Prop where
  buffered : length ≤ r.unread.length →
    d.outcome = .ok length ∧ r'.requests = r.requests ∧ r'.source = r.source
  once : r.unread.length < length →
    r'.requests = r.requests ++ [.sourceCall (r.asked length) (r.reply length)] ∧
      r'.source = (r.source.answer (r.asked length)).2
  count : r.unread.length < length → (∀ text, r.reply length ≠ .failure text) →
    (∀ first, ¬ ZeroRunAt r.threshold (r.taken ++ (r.reply length).given) first) →
    d.outcome =
      .ok (r.unread.length + min (length - r.unread.length) (r.reply length).given.length)
  /-- The bytes reported are the next ones, and nothing else of the target is changed. -/
  next : ∀ n, d.outcome = .ok n → n ≤ length ∧ r'.pending = r.pending.drop n ∧
    ∀ before, d.onto before = r.pending.take n ++ before.drop n
  none : d.outcome = .ok 0 →
    r.unread = [] ∧ (r.reply length = .nothing ∨ r.reply length = .bytes [])

variable {r : NulReader} {limit length : Nat} {bs : List UInt8}

/-! ## Asking the source -/

theorem draw_failed {text : String} {source : Source}
    (h : r.source.answer limit = (.failure text, source)) :
    r.draw limit = (.error (.source text), r.answered limit (.failure text) source) := by
  unfold draw pull
  rw [show r.reset.source.answer limit = (.failure text, source) from h]
  rfl

/-- What the source gives is scanned. -/
theorem draw_given {a : SourceAnswer} {source : Source} (h : r.source.answer limit = (a, source))
    (given : ∀ text, a ≠ .failure text) :
    r.draw limit = (((r.answered limit a source).inspect a.given).1.map fun _ => a.given,
      ((r.answered limit a source).inspect a.given).2) := by
  have pulled : r.reset.pull limit = (.ok a.given, r.answered limit a source) := by
    unfold pull
    rw [show r.reset.source.answer limit = (a, source) from h]
    cases a with
    | failure text => exact absurd rfl (given text)
    | _ => rfl
  rw [draw_eq pulled]
  rcases (r.answered limit a source).inspect a.given with ⟨_ | _, _⟩ <;> rfl

theorem requests_answered (r : NulReader) (limit : Nat) (a : SourceAnswer) (source : Source) :
    (r.answered limit a source).requests = r.requests ++ [.sourceCall limit a] := by
  simp [answered, reset, requests, ReaderEvent.isRequest]

theorem inspect_keeps (r : NulReader) (bs : List UInt8) :
    (r.inspect bs).2.requests = r.requests ∧ (r.inspect bs).2.source = r.source := by
  unfold inspect
  split
  · exact ⟨rfl, rfl⟩
  · exact ⟨by simp [requests, ReaderEvent.isRequest], rfl⟩

theorem inspect_eq_ok_iff (r : NulReader) (bs : List UInt8) :
    (r.inspect bs).1 = .ok () ↔ (r.scan.feed r.threshold bs).2 = false := by
  unfold inspect
  rcases r.scan.feed r.threshold bs with ⟨scan, _ | _⟩ <;> simp

/-- The source is asked once, whatever comes of it. -/
theorem draw_asks (r : NulReader) (limit : Nat) :
    (r.draw limit).2.requests = r.requests ++ [.sourceCall limit (r.source.answer limit).1] ∧
      (r.draw limit).2.source = (r.source.answer limit).2 := by
  rcases ha : r.source.answer limit with ⟨a, source⟩
  rw [← requests_answered r limit a source]
  by_cases failed : ∃ text, a = .failure text
  · obtain ⟨text, rfl⟩ := failed
    rw [draw_failed ha]
    exact ⟨rfl, rfl⟩
  · rw [draw_given ha (not_exists.mp failed)]
    exact inspect_keeps _ _

/-- The source gives the bytes of its answer, unless it fails or these complete a run. -/
theorem draw_eq_ok_iff : (r.draw limit).1 = .ok bs ↔
    (∀ text, (r.source.answer limit).1 ≠ .failure text) ∧
      (r.source.answer limit).1.given = bs ∧ (r.scan.feed r.threshold bs).2 = false := by
  rcases ha : r.source.answer limit with ⟨a, source⟩
  by_cases failed : ∃ text, a = .failure text
  · obtain ⟨text, rfl⟩ := failed
    rw [draw_failed ha]
    simp
  · have given := not_exists.mp failed
    have scanned := inspect_eq_ok_iff (r.answered limit a source) a.given
    rw [draw_given ha given]
    constructor
    · intro ok
      cases inspected : ((r.answered limit a source).inspect a.given).1 with
      | error e => simp [inspected, Except.map] at ok
      | ok =>
        obtain rfl : a.given = bs := by simpa [inspected, Except.map] using ok
        exact ⟨given, rfl, scanned.mp inspected⟩
    · rintro ⟨-, rfl, clear⟩
      rw [scanned.mpr clear]
      rfl

/-! ## One request -/

/-- The stored bytes of a request that reports some are the ones it hands over. -/
theorem readInto_of_outcome {n : Nat} (h : (r.readInto length).1.outcome = .ok n) :
    (r.serve length).1 = .ok (r.readInto length).1.stored ∧
      (r.readInto length).1.stored.length = n ∧
      r.pending = (r.readInto length).1.stored ++ (r.readInto length).2.pending := by
  rcases hr : r.readInto length with ⟨⟨stored, outcome⟩, r'⟩
  rw [hr] at h
  obtain rfl : outcome = .ok n := h
  obtain ⟨balance, long⟩ := pending_readInto hr
  refine ⟨?_, long, balance⟩
  simp [serve, hr, Delivery.handed, Except.map, ← long]

theorem outcome_of_serve (h : (r.serve length).1 = .ok bs) :
    (r.readInto length).1.outcome = .ok bs.length := by
  cases outcome : (r.readInto length).1.outcome with
  | error e => simp [serve, Delivery.handed, outcome, Except.map] at h
  | ok n =>
    obtain ⟨handed, long, -⟩ := readInto_of_outcome outcome
    rw [handed] at h
    rw [← long, Except.ok.inj h]

/-- A request for more than is unread asks the source once. -/
theorem serve_asks (clear : r.barred = none) (more : r.unread.length < length) :
    (r.serve length).2.requests = r.requests ++ [.sourceCall (r.asked length) (r.reply length)] ∧
      (r.serve length).2.source = (r.source.answer (r.asked length)).2 := by
  have asks := draw_asks r (r.asked length)
  have sum : length = r.unread.length + (length - r.unread.length) := by omega
  rw [serve_eq_draw clear sum (by omega)]
  unfold reply asked
  rw [asked] at asks
  generalize r.draw (max (length - r.unread.length) r.capacity) = result at asks ⊢
  obtain ⟨_ | _, r₁⟩ := result <;> exact asks

/-- It hands over what was unread and the front of what the source gives. -/
theorem serve_eq_ok_iff (clear : r.barred = none) (more : r.unread.length < length)
    {out : List UInt8} : (r.serve length).1 = .ok out ↔
      ∃ bs, (r.draw (r.asked length)).1 = .ok bs ∧
        r.unread ++ bs.take (length - r.unread.length) = out := by
  have sum : length = r.unread.length + (length - r.unread.length) := by omega
  rw [serve_eq_draw clear sum (by omega), asked]
  rcases r.draw (max (length - r.unread.length) r.capacity) with ⟨e | bs, r₁⟩ <;> simp

/-- No request hands over more than it asks for. -/
theorem length_serve_le {out : List UInt8} (h : (r.serve length).1 = .ok out) :
    out.length ≤ length := by
  cases clear : r.barred with
  | some e => simp [serve_barred clear] at h
  | none =>
    by_cases held : length ≤ r.unread.length
    · obtain rfl : r.unread.take length = out := by simpa [serve_buffered clear held] using h
      exact List.length_take_le _ _
    · obtain ⟨bs, -, rfl⟩ := (serve_eq_ok_iff clear (by omega)).mp h
      have := List.length_take_le (length - r.unread.length) bs
      rw [List.length_append]
      omega

/-- What a request comes to for a reader that can be read and whose scan knows the bytes taken. -/
theorem fulfils (clear : r.barred = none) (tracks : r.scan.Tracks r.threshold r.taken)
    (positive : 1 ≤ length) :
    r.Fulfils length (r.readInto length).1 (r.readInto length).2 := by
  constructor
  · intro held
    have served := serve_buffered clear held
    have outcome := outcome_of_serve (congrArg Prod.fst served)
    rw [List.length_take_of_le held] at outcome
    have after : (r.readInto length).2 = { r with pos := r.pos + length } :=
      congrArg Prod.snd served
    exact ⟨outcome, by rw [after]; rfl, by rw [after]⟩
  · exact serve_asks clear
  · intro more given noRun
    have quiet : (r.scan.feed r.threshold (r.reply length).given).2 = false := by
      have reports := tracks.reports_feed (r.reply length).given
      generalize r.scan.feed r.threshold (r.reply length).given = result at reports ⊢
      obtain ⟨scan, _ | _⟩ := result
      · rfl
      · exact absurd reports.1.1 (noRun _)
    have drawn := draw_eq_ok_iff.mpr ⟨given, rfl, quiet⟩
    have outcome := outcome_of_serve ((serve_eq_ok_iff clear more).mpr ⟨_, drawn, rfl⟩)
    rwa [List.length_append, List.length_take] at outcome
  · intro n outcome
    obtain ⟨handed, long, balance⟩ := readInto_of_outcome outcome
    have le := length_serve_le handed
    rw [balance, ← long]
    exact ⟨le, List.drop_left.symm, fun before => by rw [List.take_left, Delivery.onto]⟩
  · intro outcome
    obtain ⟨handed, nothing, -⟩ := readInto_of_outcome outcome
    rw [List.length_eq_zero_iff.mp nothing] at handed
    by_cases held : length ≤ r.unread.length
    · have taken : r.unread.take length = [] := by simpa [serve_buffered clear held] using handed
      have := congrArg List.length taken
      rw [List.length_take_of_le held, List.length_nil] at this
      omega
    · -- There was room for a byte, so the source gave none.
      obtain ⟨bs, drawn, empty⟩ := (serve_eq_ok_iff clear (by omega)).mp handed
      obtain ⟨unread, front⟩ := List.append_eq_nil_iff.mp empty
      obtain rfl : bs = [] := (List.take_eq_nil_iff.mp front).resolve_left (by omega)
      obtain ⟨given, none, -⟩ := draw_eq_ok_iff.mp drawn
      refine ⟨unread, ?_⟩
      unfold reply
      cases said : (r.source.answer (r.asked length)).1 with
      | bytes bs =>
        rw [said] at none
        exact .inr (congrArg _ none)
      | nothing => exact .inl rfl
      | failure text => exact absurd said (given text)

/-- A block that memory can hold is a request with a target of its own. -/
theorem readBlock_eq_readInto (positive : 1 ≤ length) (fits : memoryFault? length = none) :
    r.readBlock length = ((r.readInto length).1.outcome.map fun _ => (r.readInto length).1.stored,
      (r.readInto length).2) := by
  rw [readBlock_eq_serve (by omega) (by simpa using fits)]
  cases outcome : (r.readInto length).1.outcome with
  | error e => simp [serve, Delivery.handed, outcome, Except.map]
  | ok n => exact Prod.ext (readInto_of_outcome outcome).1 rfl

theorem readBlock_too_long {fault : MemoryFault} (positive : 1 ≤ length)
    (full : memoryFault? length = some fault) :
    r.readBlock length = (.error (.memory fault), r) := by
  rw [readBlock, if_neg (by omega)]
  simp only [Int.toNat_natCast, full]

/-! ## Requests after any calls -/

/-- What is unread are the last bytes taken, and stays so. -/
theorem Settled.unread_suffix {result : Except ReadFault (List UInt8) × NulReader}
    (h : r.Settled result) (suffix : r.unread <:+ r.taken) :
    result.2.unread <:+ result.2.taken := by
  cases h with
  | refused e => exact suffix
  | idle => exact suffix
  | proceeds clear h =>
    cases h with
    | @hands fresh bs r' draws scan found balance =>
      have grown : r.unread ++ fresh <:+ r'.taken := by
        rw [draws.taken]
        exact (List.suffix_append_inj_of_length_eq rfl).mpr ⟨suffix, rfl⟩
      rw [balance] at grown
      exact (List.suffix_append bs r'.unread).trans grown
    | run draws scan found emptied => simp [NulReader.unread, emptied]
    | failure draws scan found failed emptied => simp [NulReader.unread, emptied]

theorem unread_suffix_make (c : ReaderCall) (suffix : r.unread <:+ r.taken) :
    (c.make r).2.unread <:+ (c.make r).2.taken := by
  rcases Session.make_cases c r with settled | same | ⟨-, closed⟩
  · exact settled.unread_suffix suffix
  · rwa [same]
  · rwa [closed]

end NulReader

namespace Session

open NulReader

variable {s : Session}

theorem unread_suffix_run (suffix : s.reader.unread <:+ s.reader.taken) (calls : List ReaderCall) :
    (s.run calls).reader.unread <:+ (s.run calls).reader.taken :=
  run_keeps (P := fun r => r.unread <:+ r.taken) (fun c _ => unread_suffix_make c) suffix calls

/-- After any calls, a reader that can be read fulfils each request, and a block likewise if memory
can hold it. What it has pending is the end of the stream, from where it handed over the last byte
if the source never fails. -/
theorem run_fulfils {source : Source} {threshold capacity : Nat} {r : NulReader}
    (ht : 1 ≤ threshold) (hc : 1 ≤ capacity)
    (h : NulReader.open (some source) threshold capacity = .ok r) (calls : List ReaderCall) :
    let s := (start r).run calls
    s.reader.closed = false → s.reader.found = none →
      s.reader.threshold = threshold ∧ s.reader.capacity = capacity ∧
      s.reader.pending <:+ source.content ∧
      (source.NeverFails → source.content = s.handed ++ s.reader.pending) ∧
      ∀ length, 1 ≤ length →
        s.reader.Fulfils length (s.reader.readInto length).1 (s.reader.readInto length).2 ∧
        (memoryFault? length = none → s.reader.readBlock length =
          ((s.reader.readInto length).1.outcome.map fun _ => (s.reader.readInto length).1.stored,
            (s.reader.readInto length).2)) ∧
        ∀ fault, memoryFault? length = some fault →
          s.reader.readBlock length = (.error (.memory fault), s.reader) := by
  intro s isOpen noRun
  have sound : Sound source threshold capacity s := (sound_start ht hc h).run calls
  have clear : s.reader.barred = none := by rw [barred, isOpen, noRun]; rfl
  have suffix : s.reader.unread <:+ s.reader.taken := by
    obtain ⟨-, rfl⟩ := open_ok ht hc h
    exact unread_suffix_run (List.suffix_refl _) calls
  refine ⟨sound.threshold_eq, sound.capacity_eq, ?_, sound.content_eq noRun, fun length positive =>
    ⟨fulfils clear (sound.tracks noRun) positive, readBlock_eq_readInto positive,
      fun fault => readBlock_too_long positive⟩⟩
  rw [sound.content]
  exact (List.suffix_append_inj_of_length_eq rfl).mpr ⟨suffix, rfl⟩

/-- A request that takes two bytes from the buffer and one of the two that the source gives. -/
theorem run_fulfils_refill :
    ∃ r, NulReader.open (some [.bytes [7, 8, 9], .bytes [0, 5]]) (2 : Nat) (4 : Nat) = .ok r ∧
      let reader := ((start r).run [.byte]).reader
      (reader.readInto 3).1.outcome = .ok 3 ∧
      (reader.readInto 3).2.requests = reader.requests ++ [.sourceCall 4 (.bytes [0, 5])] ∧
      (∀ before, (reader.readInto 3).1.onto before = [8, 9, 0] ++ before.drop 3) ∧
      (reader.readBlock 3).1 = .ok [8, 9, 0] := by
  have made : NulReader.open (some [.bytes [7, 8, 9], .bytes [0, 5]]) (2 : Nat) (4 : Nat) =
      .ok ⟨[.bytes [7, 8, 9], .bytes [0, 5]], 0, 2, 4, [], 0, .initial, none, false, []⟩ := rfl
  refine ⟨_, made, ?_⟩
  obtain ⟨-, -, -, -, each⟩ :=
    run_fulfils (by decide) (by decide) made [.byte] (by cbv) (by cbv)
  obtain ⟨request, block, -⟩ := each 3 (by decide)
  intro reader
  have reply : reader.reply 3 = .bytes [0, 5] := by simp only [reader]; cbv
  have taken : reader.taken = [7, 8, 9] := by simp only [reader]; cbv
  have threshold : reader.threshold = 2 := by simp only [reader]; cbv
  have unread : reader.unread = [8, 9] := by simp only [reader]; cbv
  have pending : reader.pending = [8, 9, 0, 5] := by simp only [reader]; cbv
  have asked : reader.asked 3 = 4 := by simp only [reader]; cbv
  change reader.Fulfils 3 (reader.readInto 3).1 (reader.readInto 3).2 at request
  change memoryFault? 3 = none → reader.readBlock 3 =
    ((reader.readInto 3).1.outcome.map fun _ => (reader.readInto 3).1.stored,
      (reader.readInto 3).2) at block
  -- what follows needs only these facts of the state, not the calls that led to it
  clear_value reader
  have more : reader.unread.length < 3 := by rw [unread]; decide
  have noRun (first : Nat) : ¬ ZeroRunAt reader.threshold (reader.taken ++ [0, 5]) first := by
    rw [threshold, taken]
    intro run
    have within : first < 4 := Nat.lt_of_add_lt_add_right (run.le_length (by decide))
    have zeros := run 0 (by decide)
    have again := run 1 (by decide)
    interval_cases first <;> simp_all
  have outcome := request.count more (by simp [reply]) (by rw [reply]; exact noRun)
  rw [unread, reply] at outcome
  have once := (request.once more).1
  rw [asked, reply] at once
  have next := (request.next 3 outcome).2.2
  rw [pending] at next
  have stored : (reader.readInto 3).1.stored = [8, 9, 0] := by
    simpa [Delivery.onto] using next []
  refine ⟨outcome, once, next, ?_⟩
  rw [block rfl, ← stored]
  exact congrArg (Except.map _) outcome

/-- A block that no memory can hold is not asked of the source. -/
theorem huge_block_asks_nothing :
    ∃ r, NulReader.open (some [.bytes [97]]) 1 4 = .ok r ∧ r.barred = none ∧ r.unread = [] ∧
      (r.readBlock 9223372036854775808).1 = .error (.memory .notASize) ∧
      (r.readBlock 9223372036854775808).2.requests = [] :=
  ⟨_, rfl, rfl, rfl, rfl, rfl⟩

end Session

end TabAudit
