import TabAudit.Proofs.Bytes.Refusal

/-!
# The end of a session

A reader is at its end once it has met a run of zeros or is closed. From the call that ends it on
every call is `Idle`, and a run of zeros keeps its place. Closing is the one thing left to do after
a run of zeros, and the source is closed by the first call that closes the reader and by no other.
-/

namespace TabAudit

/-- Whether a reader asked its source for bytes. -/
def ReaderEvent.isRequest : ReaderEvent → Bool
  | .sourceCall .. => true
  | _ => false

namespace NulReader

/-- The requests that a reader has made to its source. -/
def requests (r : NulReader) : List ReaderEvent := r.events.filter ReaderEvent.isRequest

/-- A call that asks the source for nothing, scans nothing and hands nothing over. -/
structure Idle (r : NulReader) (c : ReaderCall) : Prop where
  requests : (c.make r).2.requests = r.requests
  scan : (c.make r).2.scan = r.scan
  empty : ∀ bs, (c.make r).1 = .ok bs → bs = []

/-- A call that closes the reader or fails for a run of zeros. -/
def EndedBy (r : NulReader) (c : ReaderCall) : Prop :=
  c.closes = true ∨ ∃ first, (c.make r).1 = .error (.nulRun first)

/-- The source is closed once, with the reader. -/
def ClosedTogether (r : NulReader) : Prop := r.sourceClosings = if r.closed then 1 else 0

variable {r : NulReader} {c : ReaderCall} {result : Except ReadFault (List UInt8) × NulReader}
variable {first : Nat}

/-! ## Reads -/

/-- No read closes anything. -/
theorem Settled.keeps_open (h : r.Settled result) :
    result.2.closed = r.closed ∧ result.2.sourceClosings = r.sourceClosings := by
  cases h with
  | refused e => exact ⟨rfl, rfl⟩
  | idle => exact ⟨rfl, rfl⟩
  | proceeds clear h =>
    cases h with
    | hands draws => exact ⟨draws.closed, draws.sourceClosings⟩
    | run draws => exact ⟨draws.closed, draws.sourceClosings⟩
    | failure draws => exact ⟨draws.closed, draws.sourceClosings⟩

/-- A read that fails for a run of zeros leaves the reader with that run. -/
theorem Settled.found_of_nulRun (h : r.Settled result)
    (failed : result.1 = .error (.nulRun first)) : result.2.found = some first := by
  cases h with
  | refused e names => exact names first (Except.error.inj failed)
  | idle => cases failed
  | proceeds clear h =>
    cases h with
    | hands => cases failed
    | run draws scan found =>
      cases failed
      exact found
    | failure => cases failed

theorem Settled.of_barred (barred : r.barred ≠ none) (h : r.Settled result) :
    result.2 = r ∧ ∀ bs, result.1 = .ok bs → bs = [] := by
  cases h with
  | refused e => exact ⟨rfl, by simp⟩
  | idle => exact ⟨rfl, by simp⟩
  | proceeds clear => exact absurd clear barred

/-! ## Calls -/

theorem close_keeps (r : NulReader) :
    r.close.2.requests = r.requests ∧ r.close.2.scan = r.scan ∧ r.close.2.found = r.found := by
  cases h : r.closed with
  | true => simp [Session.close_of_closed h]
  | false => simp [Session.close_of_open h, NulReader.requests]

/-- Whatever is called, a reader at its end takes nothing and gives nothing. -/
theorem idle_of_barred (barred : r.barred ≠ none) (c : ReaderCall) : r.Idle c := by
  cases hc : c.closes with
  | false =>
    obtain ⟨same, empty⟩ := (Session.make_settled hc r).of_barred barred
    exact ⟨by rw [same], by rw [same], empty⟩
  | true =>
    obtain ⟨same, outcome⟩ := Session.make_of_closes hc r
    obtain ⟨requests, scan, -⟩ := close_keeps r
    refine ⟨by rw [same, requests], by rw [same, scan], fun bs given => ?_⟩
    rcases outcome with none | failed
    · simpa [none, eq_comm] using given
    · simp [failed] at given

theorem found_of_nulRun (failed : (c.make r).1 = .error (.nulRun first)) :
    (c.make r).2.found = some first := by
  cases hc : c.closes with
  | false => exact (Session.make_settled hc r).found_of_nulRun failed
  | true =>
    rcases (Session.make_of_closes hc r).2 with none | closed
    · simp [none] at failed
    · simp [closed] at failed

/-- A reader that has met a run of zeros keeps it. -/
theorem found_make (found : r.found = some first) (c : ReaderCall) :
    (c.make r).2.found = some first := by
  cases hc : c.closes with
  | false =>
    rw [((Session.make_settled hc r).of_barred (Session.barred_of_found found)).1, found]
  | true => rw [(Session.make_of_closes hc r).1, (close_keeps r).2.2, found]

theorem EndedBy.barred (h : r.EndedBy c) : (c.make r).2.barred ≠ none := by
  rcases h with closes | ⟨first, failed⟩
  · rw [(Session.make_of_closes closes r).1]
    exact Session.close_barred r
  · exact Session.barred_of_found (found_of_nulRun failed)

theorem closed_make (c : ReaderCall) (r : NulReader) :
    (c.make r).2.closed = (r.closed || c.closes) := by
  cases hc : c.closes with
  | false => rw [(Session.make_settled hc r).keeps_open.1, Bool.or_false]
  | true =>
    rw [(Session.make_of_closes hc r).1, Bool.or_true]
    cases h : r.closed with
    | true => rw [Session.close_of_closed h, h]
    | false => rw [Session.close_of_open h]

theorem ClosedTogether.make (h : r.ClosedTogether) (c : ReaderCall) :
    (c.make r).2.ClosedTogether := by
  unfold ClosedTogether at h ⊢
  cases hc : c.closes with
  | false =>
    obtain ⟨closed, closings⟩ := (Session.make_settled hc r).keeps_open
    rw [closings, closed, h]
  | true =>
    rw [(Session.make_of_closes hc r).1]
    cases hx : r.closed with
    | true => rwa [Session.close_of_closed hx]
    | false =>
      rw [hx] at h
      rw [Session.close_of_open hx, h]
      rfl

end NulReader

namespace Session

open NulReader

variable {s : Session} {first : Nat}

/-! ## Runs of calls -/

theorem barred_run (h : s.reader.barred ≠ none) (calls : List ReaderCall) :
    (s.run calls).reader.barred ≠ none := by
  induction calls generalizing s with
  | nil => exact h
  | cons c calls ih => exact ih (step_of_barred h c).2

theorem found_run (h : s.reader.found = some first) (calls : List ReaderCall) :
    (s.run calls).reader.found = some first :=
  run_keeps (P := (·.found = some first)) (fun c _ found => found_make found c) h calls

theorem closed_run (s : Session) (calls : List ReaderCall) :
    (s.run calls).reader.closed = (s.reader.closed || calls.any ReaderCall.closes) := by
  induction calls generalizing s with
  | nil => simp [run]
  | cons c calls ih =>
    show ((s.step c).run calls).reader.closed = _
    rw [ih, reader_step, closed_make, List.any_cons, Bool.or_assoc]

theorem closedTogether_run (h : s.reader.ClosedTogether) (calls : List ReaderCall) :
    (s.run calls).reader.ClosedTogether :=
  run_keeps (P := ClosedTogether) (fun c _ together => together.make c) h calls

/-- A new reader is open, and so is its source. -/
theorem open_of_new {source : Option Source} {threshold capacity : Int} {r : NulReader}
    (h : NulReader.open source threshold capacity = .ok r) :
    r.closed = false ∧ r.ClosedTogether := by
  obtain ⟨content, rfl, ht, hc, -⟩ := open_eq_ok h
  have made : NulReader.open (some content) threshold.toNat capacity.toNat = .ok r := by
    rwa [Int.toNat_of_nonneg (by omega), Int.toNat_of_nonneg (by omega)]
  obtain ⟨-, rfl⟩ := open_ok (by omega) (by omega) made
  exact ⟨rfl, rfl⟩

/-- The first call that closes the reader closes the source, whether or not a run of zeros was met;
to close again is an error, and to leave again does nothing. From a call on that closes the reader
or fails for a run of zeros every call is idle, and every run of zeros reported is the same. -/
theorem run_closes_once_and_rests {source : Option Source} {threshold capacity : Int}
    {r : NulReader} (h : NulReader.open source threshold capacity = .ok r)
    (calls : List ReaderCall) :
    let s := (start r).run calls
    (s.reader.sourceClosings = if calls.any ReaderCall.closes then 1 else 0) ∧
      (calls.any ReaderCall.closes = true →
        s.reader.close = (.error .closed, s.reader) ∧ s.reader.leave = s.reader) ∧
      (calls.any ReaderCall.closes = false →
        s.reader.close.1 = .ok () ∧ s.reader.close.2.sourceClosings = 1 ∧
          s.reader.leave.sourceClosings = 1) ∧
      ∀ c, s.reader.EndedBy c → ∀ later,
        let t := (s.step c).run later
        (∀ d, t.reader.Idle d) ∧
          ∀ (d : ReaderCall) (first again : Nat), (c.make s.reader).1 = .error (.nulRun first) →
            (d.make t.reader).1 = .error (.nulRun again) → again = first := by
  intro s
  obtain ⟨isOpen, together⟩ := open_of_new h
  have closed : s.reader.closed = calls.any ReaderCall.closes := by
    rw [closed_run, start, isOpen, Bool.false_or]
  have whole : s.reader.ClosedTogether := closedTogether_run together calls
  refine ⟨closed ▸ whole, fun some_ => ?_, fun none => ?_,
    fun c ended later => ⟨fun d => ?_, fun d first again failed later_failed => ?_⟩⟩
  · have shut : s.reader.close = (.error .closed, s.reader) := close_of_closed (closed.trans some_)
    exact ⟨shut, by rw [leave, shut]⟩
  · have shut := close_of_open (closed.trans none)
    have once : s.reader.close.2.sourceClosings = 1 := by
      have before : s.reader.sourceClosings = 0 := by rw [whole, closed.trans none]; rfl
      rw [shut, before]
    exact ⟨by rw [shut], once, once⟩
  · apply idle_of_barred
    apply barred_run
    rw [reader_step]
    exact ended.barred
  · -- The run that ended the session is still the one found when the later call is made.
    have kept : ((s.step c).run later).reader.found = some first := by
      apply found_run
      rw [reader_step]
      exact found_of_nulRun failed
    have met := found_of_nulRun later_failed
    rw [found_make kept] at met
    exact (Option.some.inj met).symm

/-- A run of zeros that ends a read half way, after which the reader is asked again and closed. -/
theorem run_closes_once_and_rests_met_run :
    ∃ r, NulReader.open (some [.bytes [7], .failure "late", .bytes [0, 0], .bytes [8]]) 2 1 =
        .ok r ∧
      let s := (start r).run [.byte, .block 4]
      ((ReaderCall.read (some 9)).make s.reader).1 = .error (.nulRun 1) ∧
      let t := (s.step (.read (some 9))).run [.byte, .close]
      t.reader.sourceClosings = 1 ∧ t.reader.close = (.error .closed, t.reader) ∧
        t.reader.Idle (.into 3) := by
  have made : NulReader.open (some [.bytes [7], .failure "late", .bytes [0, 0], .bytes [8]]) 2 1 =
      .ok ⟨[.bytes [7], .failure "late", .bytes [0, 0], .bytes [8]], 0, 2, 1, [], 0, .initial,
        none, false, []⟩ := rfl
  obtain ⟨-, -, -, rests⟩ := run_closes_once_and_rests made [.byte, .block 4]
  obtain ⟨once, shut, -, -⟩ :=
    run_closes_once_and_rests made [.byte, .block 4, .read (some 9), .byte, .close]
  have rest := (rests (.read (some 9)) (.inr ⟨1, by cbv⟩) [.byte, .close]).1 (.into 3)
  exact ⟨_, made, by cbv, once, (shut rfl).1, rest⟩

end Session

end TabAudit
