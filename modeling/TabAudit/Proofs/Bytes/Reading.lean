import Mathlib
import TabAudit.Bytes.NulReader
import TabAudit.Proofs.Bytes.ZeroRun
/-!
# What one read does

Every read either is refused and leaves the reader as it is, or `Proceeds`: it takes some bytes
from the source, scans each of them once, and then hands on the front of what it holds, stops at a
run of zeros for good, or passes a failure of the source on. All reads are built from `draw`, one
request to the source with the scan of its answer, so the cases are told apart there and nowhere
else.
-/

namespace TabAudit

/-- The bytes of an answer. -/
def SourceAnswer.given : SourceAnswer → List UInt8
  | .bytes bs => bs
  | _ => []

/-- The bytes that came with an event. -/
def ReaderEvent.bytes : ReaderEvent → List UInt8
  | .sourceCall _ answer => answer.given
  | .nulRun .. => []

/-- What a delivery hands over: as many of the stored bytes as it reports. -/
def Delivery.handed (d : Delivery) : Except ReadFault (List UInt8) :=
  d.outcome.map (d.stored.take ·)

namespace Source

/-- A source that answers every request. -/
def NeverFails (s : Source) : Prop := ∀ text, SourceItem.failure text ∉ s

/-- A source that answers every request with bytes, and with none only at its end. -/
def Steady : Source → Prop
  | [] => True
  | .bytes bs :: rest => Steady rest ∧ (bs = [] → content rest = [])
  | _ => False

/-- A source that answers every request and has no more to give once it gave no bytes. -/
def Ending : Source → Prop
  | [] => True
  | .bytes bs :: rest => Ending rest ∧ (bs = [] → content rest = [])
  | .nothing :: rest => Ending rest ∧ content rest = []
  | .failure _ :: _ => False

theorem Steady.ending {s : Source} (h : s.Steady) : s.Ending := by
  induction s with
  | nil => trivial
  | cons item rest ih =>
    cases item with
    | bytes bs => exact ⟨ih h.1, h.2⟩
    | nothing => exact h.elim
    | failure text => exact h.elim

theorem Ending.neverFails {s : Source} (h : s.Ending) : s.NeverFails := by
  induction s with
  | nil => exact fun _ hm => nomatch hm
  | cons item rest ih =>
    cases item with
    | bytes bs => exact fun text hm => ih h.1 text (by simpa using hm)
    | nothing => exact fun text hm => ih h.1 text (by simpa using hm)
    | failure text => exact h.elim

theorem Steady.neverFails {s : Source} (h : s.Steady) : s.NeverFails := h.ending.neverFails

/-! ## Answers -/

variable {limit : Nat} {s s' : Source} {a : SourceAnswer}

theorem given_length_le (h : s.answer limit = (a, s')) : a.given.length ≤ limit := by
  unfold answer at h
  split at h
  · obtain ⟨rfl, rfl⟩ := by simpa using h
    simp [SourceAnswer.given]
  · split at h
    · obtain ⟨rfl, rfl⟩ := by simpa using h
      assumption
    · obtain ⟨rfl, rfl⟩ := by simpa using h
      exact List.length_take_le _ _
  · obtain ⟨rfl, rfl⟩ := by simpa using h
    simp [SourceAnswer.given]
  · obtain ⟨rfl, rfl⟩ := by simpa using h
    simp [SourceAnswer.given]

theorem content_answer (h : s.answer limit = (a, s')) : s.content = a.given ++ s'.content := by
  cases a with
  | bytes bs => exact content_answer_bytes h
  | nothing => exact content_answer_nothing h
  | failure text =>
    unfold answer at h
    split at h
    · simp at h
    · split at h <;> simp at h
    · simp at h
    · obtain ⟨-, rfl⟩ := by simpa using h
      rfl

theorem failure_mem_of_answer (h : s.answer limit = (a, s')) {text : String}
    (hm : SourceItem.failure text ∈ s') : SourceItem.failure text ∈ s := by
  unfold answer at h
  split at h
  · obtain ⟨-, rfl⟩ := by simpa using h
    exact hm
  · split at h <;> obtain ⟨-, rfl⟩ := by simpa using h
    · exact List.mem_cons_of_mem _ hm
    · simpa using hm
  · obtain ⟨-, rfl⟩ := by simpa using h
    exact List.mem_cons_of_mem _ hm
  · obtain ⟨-, rfl⟩ := by simpa using h
    exact List.mem_cons_of_mem _ hm

theorem failure_mem {text : String} (h : s.answer limit = (.failure text, s')) :
    SourceItem.failure text ∈ s := by
  unfold answer at h
  split at h
  · simp at h
  · split at h <;> simp at h
  · simp at h
  · obtain ⟨rfl, -⟩ := by simpa using h
    exact List.mem_cons_self

theorem Steady.answer (hs : s.Steady) (h : s.answer limit = (a, s')) : s'.Steady := by
  fun_cases Source.answer limit s with
  | case1 =>
    obtain ⟨-, rfl⟩ := by simpa [Source.answer] using h
    exact hs
  | case2 bs rest fits =>
    obtain ⟨-, rfl⟩ := by simpa [Source.answer, fits] using h
    exact hs.1
  | case3 bs rest more =>
    obtain ⟨-, rfl⟩ := by simpa [Source.answer, more] using h
    exact ⟨hs.1, fun none => absurd (List.drop_eq_nil_iff.1 none) more⟩
  | case4 rest => exact hs.elim
  | case5 text rest => exact hs.elim

theorem Ending.answer (hs : s.Ending) (h : s.answer limit = (a, s')) : s'.Ending := by
  fun_cases Source.answer limit s with
  | case1 =>
    obtain ⟨-, rfl⟩ := by simpa [Source.answer] using h
    exact hs
  | case2 bs rest fits =>
    obtain ⟨-, rfl⟩ := by simpa [Source.answer, fits] using h
    exact hs.1
  | case3 bs rest more =>
    obtain ⟨-, rfl⟩ := by simpa [Source.answer, more] using h
    exact ⟨hs.1, fun none => absurd (List.drop_eq_nil_iff.1 none) more⟩
  | case4 rest =>
    obtain ⟨-, rfl⟩ := by simpa [Source.answer] using h
    exact hs.1
  | case5 text rest => exact hs.elim

/-- A source that ends and gives no bytes holds none. -/
theorem Ending.content_of_none (hs : s.Ending) (hl : 1 ≤ limit) (h : s.answer limit = (a, s'))
    (hn : a.given = []) : s.content = [] := by
  fun_cases Source.answer limit s with
  | case1 => rfl
  | case2 bs rest fits =>
    obtain ⟨rfl, -⟩ := by simpa [Source.answer, fits] using h
    obtain rfl : bs = [] := hn
    exact hs.2 rfl
  | case3 bs rest more =>
    obtain ⟨rfl, -⟩ := by simpa [Source.answer, more] using h
    have := congrArg List.length hn
    simp only [SourceAnswer.given, List.length_take, List.length_nil] at this
    omega
  | case4 rest => exact hs.2
  | case5 text rest => exact hs.elim

/-- One source is what answers leave of another. -/
inductive Leads (s : Source) : Source → Prop
  | here : Leads s s
  | answer {s₁ s₂ : Source} {limit : Nat} {a : SourceAnswer} (h : Leads s s₁)
      (answered : s₁.answer limit = (a, s₂)) : Leads s s₂

theorem Leads.trans {s₁ s₂ : Source} (h : Leads s s₁) (h' : Leads s₁ s₂) : Leads s s₂ := by
  induction h' with
  | here => exact h
  | answer _ answered ih => exact ih.answer answered

/-- What no answer takes away stays with the source. -/
theorem Leads.keeps {P : Source → Prop}
    (step : ∀ {s s' : Source} {limit : Nat} {a : SourceAnswer},
      s.answer limit = (a, s') → P s → P s')
    (h : Leads s s') (hs : P s) : P s' := by
  induction h with
  | here => exact hs
  | answer _ answered ih => exact step answered ih

end Source

namespace NulReader

/-- Every byte that a reader has taken from its source. -/
def taken (r : NulReader) : List UInt8 := r.events.flatMap ReaderEvent.bytes

/-- The cursor is within the filled part of the buffer, and that within the buffer. -/
def Within (r : NulReader) : Prop := r.pos ≤ r.buffer.length ∧ r.buffer.length ≤ r.capacity

/-- `r'` is `r` after requests to the source that gave `fresh`. -/
structure Draws (r : NulReader) (fresh : List UInt8) (r' : NulReader) : Prop where
  threshold : r'.threshold = r.threshold
  capacity : r'.capacity = r.capacity
  closed : r'.closed = r.closed
  sourceClosings : r'.sourceClosings = r.sourceClosings
  taken : r'.taken = r.taken ++ fresh
  content : r.source.content = fresh ++ r'.source.content
  leads : r.source.Leads r'.source
  within : r.Within → r'.Within

/-- What a read that is not refused comes to. -/
inductive Proceeds (r : NulReader) : Except ReadFault (List UInt8) × NulReader → Prop
  /-- It hands on the front of what it holds. -/
  | hands {fresh bs : List UInt8} {r' : NulReader} (draws : Draws r fresh r')
      (scan : r.scan.feed r.threshold fresh = (r'.scan, false)) (found : r'.found = r.found)
      (balance : r.unread ++ fresh = bs ++ r'.unread) : Proceeds r (.ok bs, r')
  /-- It meets a run of zeros. -/
  | run {fresh : List UInt8} {r' : NulReader} (draws : Draws r fresh r')
      (scan : r.scan.feed r.threshold fresh = (r'.scan, true))
      (found : r'.found = some r'.scan.start) (emptied : r'.buffer = []) :
      Proceeds r (.error (.nulRun r'.scan.start), r')
  /-- The source fails. -/
  | failure {fresh : List UInt8} {text : String} {r' : NulReader} (draws : Draws r fresh r')
      (scan : r.scan.feed r.threshold fresh = (r'.scan, false)) (found : r'.found = r.found)
      (failed : SourceItem.failure text ∈ r.source) (emptied : r'.buffer = []) :
      Proceeds r (.error (.source text), r')

variable {r r₁ r₂ : NulReader} {fresh more : List UInt8}

theorem Draws.trans (h : Draws r fresh r₁) (h' : Draws r₁ more r₂) :
    Draws r (fresh ++ more) r₂ where
  threshold := h'.threshold.trans h.threshold
  capacity := h'.capacity.trans h.capacity
  closed := h'.closed.trans h.closed
  sourceClosings := h'.sourceClosings.trans h.sourceClosings
  taken := by rw [h'.taken, h.taken, List.append_assoc]
  content := by rw [h.content, h'.content, List.append_assoc]
  leads := h.leads.trans h'.leads
  within := fun hw => h'.within (h.within hw)

theorem Draws.failures (h : Draws r fresh r₁) (text : String)
    (hm : SourceItem.failure text ∈ r₁.source) : SourceItem.failure text ∈ r.source := by
  by_contra none
  exact h.leads.keeps (P := (SourceItem.failure text ∉ ·))
    (fun answered absent later => absent (Source.failure_mem_of_answer answered later)) none hm

theorem Draws.steady (h : Draws r fresh r₁) (hs : r.source.Steady) : r₁.source.Steady :=
  h.leads.keeps (fun answered steady => steady.answer answered) hs

theorem Draws.ending (h : Draws r fresh r₁) (hs : r.source.Ending) : r₁.source.Ending :=
  h.leads.keeps (fun answered ending => ending.answer answered) hs

/-! ## One request to the source -/

/-- Asks the source once, with nothing held back, and scans what it gives. -/
def draw (r : NulReader) (limit : Nat) : Except ReadFault (List UInt8) × NulReader :=
  match r.reset.pull limit with
  | (.error e, r) => (.error e, r)
  | (.ok bs, r) =>
    match r.inspect bs with
    | (.error e, r) => (.error e, r)
    | (.ok (), r) => (.ok bs, r)

/-- What one request comes to. -/
inductive Drawn (r : NulReader) (limit : Nat) : Except ReadFault (List UInt8) × NulReader → Prop
  | gives {bs : List UInt8} {r' : NulReader} (draws : Draws r bs r')
      (scan : r.scan.feed r.threshold bs = (r'.scan, false)) (found : r'.found = r.found)
      (buffer : r'.buffer = []) (pos : r'.pos = 0) (length : bs.length ≤ limit)
      (ends : r.source.Ending → 1 ≤ limit → bs = [] → r.source.content = []) :
      Drawn r limit (.ok bs, r')
  | run {bs : List UInt8} {r' : NulReader} (draws : Draws r bs r')
      (scan : r.scan.feed r.threshold bs = (r'.scan, true))
      (found : r'.found = some r'.scan.start) (emptied : r'.buffer = []) :
      Drawn r limit (.error (.nulRun r'.scan.start), r')
  | failure {text : String} {r' : NulReader} (draws : Draws r [] r') (scan : r'.scan = r.scan)
      (found : r'.found = r.found) (failed : SourceItem.failure text ∈ r.source)
      (emptied : r'.buffer = []) : Drawn r limit (.error (.source text), r')

theorem draws_of_answer {limit : Nat} {a : SourceAnswer} {source : Source}
    (ha : r.source.answer limit = (a, source)) (hs : r₁.source = source)
    (ht : r₁.threshold = r.threshold) (hc : r₁.capacity = r.capacity) (hx : r₁.closed = r.closed)
    (hn : r₁.sourceClosings = r.sourceClosings) (hk : r₁.taken = r.taken ++ a.given)
    (hb : r₁.buffer = []) (hp : r₁.pos = 0) : Draws r a.given r₁ where
  threshold := ht
  capacity := hc
  closed := hx
  sourceClosings := hn
  taken := hk
  content := by rw [hs]; exact Source.content_answer ha
  leads := hs ▸ Source.Leads.here.answer ha
  within := fun _ => by simp [Within, hb, hp]

/-- The reader that has just been answered. -/
def answered (r : NulReader) (limit : Nat) (a : SourceAnswer) (source : Source) : NulReader :=
  { r.reset with source := source, events := r.reset.events ++ [.sourceCall limit a] }

theorem taken_answered (r : NulReader) (limit : Nat) (a : SourceAnswer) (source : Source) :
    (r.answered limit a source).taken = r.taken ++ a.given := by
  simp [answered, reset, taken, ReaderEvent.bytes]

/-- Scanning the bytes of an answer. -/
theorem drawn_inspect {limit : Nat} {a : SourceAnswer} {source : Source}
    (ha : r.source.answer limit = (a, source)) :
    Drawn r limit (match (r.answered limit a source).inspect a.given with
      | (.error e, r) => (.error e, r)
      | (.ok (), r) => (.ok a.given, r)) := by
  have hk := taken_answered r limit a source
  unfold inspect
  match hf :
      (r.answered limit a source).scan.feed (r.answered limit a source).threshold a.given with
  | (scan, false) =>
    exact .gives (draws_of_answer ha rfl rfl rfl rfl rfl hk rfl rfl) hf rfl rfl rfl
      (Source.given_length_le ha) fun hs hl => hs.content_of_none hl ha
  | (scan, true) =>
    have hd : Draws r a.given { r.answered limit a source with
        scan := scan, found := some scan.start,
        events := (r.answered limit a source).events ++ [.nulRun scan.run scan.start] } := by
      refine draws_of_answer ha rfl rfl rfl rfl rfl ?_ rfl rfl
      rw [← hk]
      simp [taken, ReaderEvent.bytes]
    exact .run hd hf rfl rfl

theorem drawn (r : NulReader) (limit : Nat) : Drawn r limit (r.draw limit) := by
  unfold draw pull
  match ha : r.reset.source.answer limit with
  | (.bytes bs, source) => exact drawn_inspect ha
  | (.nothing, source) => exact drawn_inspect ha
  | (.failure text, source) =>
    have hk := taken_answered r limit (.failure text) source
    have hd : Draws r (SourceAnswer.failure text).given (r.answered limit (.failure text) source) :=
      draws_of_answer ha rfl rfl rfl rfl rfl hk rfl rfl
    exact .failure hd rfl rfl (Source.failure_mem ha) rfl

theorem draw_ok {limit : Nat} {bs : List UInt8} (h : r.draw limit = (.ok bs, r₁)) :
    r₁ = { r₁ with buffer := [], pos := 0 } ∧ bs.length ≤ limit := by
  have hd := drawn r limit
  rw [h] at hd
  cases hd with
  | gives draws scan found buffer pos length => exact ⟨by rw [← buffer, ← pos], length⟩

theorem draw_eq {limit : Nat} {bs : List UInt8} (hp : r.reset.pull limit = (.ok bs, r₁)) :
    r.draw limit = match r₁.inspect bs with
      | (.error e, r) => (.error e, r)
      | (.ok (), r) => (.ok bs, r) := by
  unfold draw
  rw [hp]

theorem fill_eq_draw (r : NulReader) :
    r.fill = match r.draw r.capacity with
      | (.error e, r) => (.error e, r)
      | (.ok bs, r) => (.ok bs.length, { r with buffer := bs, pos := 0 }) := by
  unfold fill
  match hp : r.reset.pull r.capacity with
  | (.error e, r₁) => simp only [draw, hp]
  | (.ok bs, r₁) =>
    dsimp only
    rw [draw_eq hp]
    match hi : r₁.inspect bs with
    | (.error e, r₂) => rfl
    | (.ok (), r₂) =>
      have hpos : r₂.pos = 0 := (inspect_ok hi).2.2.trans (pull_ok hp).2.2
      dsimp only
      rw [← hpos]

/-! ## Each read -/

theorem unread_take_append_drop (r : NulReader) (n : Nat) :
    r.unread.take n ++ { r with pos := r.pos + n }.unread = r.unread := by
  simp only [unread]
  rw [← List.drop_drop, List.take_append_drop]

theorem take_append_drop_min (bs : List UInt8) (n : Nat) :
    bs.take n ++ bs.drop (min n bs.length) = bs := by
  rcases Nat.le_total n bs.length with hn | hn
  · rw [Nat.min_eq_left hn, List.take_append_drop]
  · rw [Nat.min_eq_right hn, List.drop_length, List.append_nil, List.take_of_length_le hn]

/-- Moving the cursor within what is unread takes nothing from the source. -/
theorem draws_skip {n : Nat} (h : n ≤ r.unread.length) :
    Draws r [] { r with pos := r.pos + n } where
  threshold := rfl
  capacity := rfl
  closed := rfl
  sourceClosings := rfl
  taken := (List.append_nil _).symm
  content := rfl
  leads := .here
  within := fun hw => by
    simp only [unread, List.length_drop] at h
    simp only [Within] at hw ⊢
    omega

/-- Keeping some bytes in the buffer, with the cursor among them. -/
theorem Draws.keep (h : Draws r fresh r₁) {kept : List UInt8} {n : Nat} (hn : n ≤ kept.length)
    (hl : kept.length ≤ r.capacity) : Draws r fresh { r₁ with buffer := kept, pos := n } where
  threshold := h.threshold
  capacity := h.capacity
  closed := h.closed
  sourceClosings := h.sourceClosings
  taken := h.taken
  content := h.content
  leads := h.leads
  within := fun _ => ⟨hn, by simpa only [h.capacity] using hl⟩

theorem feed_nil (r : NulReader) : r.scan.feed r.threshold [] = (r.scan, false) := by
  simp [NulScan.feed]

theorem readByte_proceeds (h : r.barred = none) :
    Proceeds r ((r.readByte.1).map Option.toList, r.readByte.2) := by
  unfold readByte
  simp only [h]
  match hu : r.unread with
  | b :: rest =>
    have hb := unread_take_append_drop r 1
    refine .hands (draws_skip (n := 1) (by simp [hu])) (feed_nil r) rfl ?_
    simpa [hu] using hb.symm
  | [] =>
    rw [fill_eq_draw]
    have hd := drawn r r.capacity
    generalize r.draw r.capacity = result at hd ⊢
    cases hd with
    | @gives bs r' draws scan found buffer pos length =>
      match bs with
      | [] =>
        refine .hands (draws.keep (Nat.le_refl 0) (Nat.zero_le _)) scan found ?_
        rw [hu]
        rfl
      | b :: rest =>
        refine .hands (draws.keep (n := 1) (by simp) length) scan found ?_
        rw [hu]
        rfl
    | run draws scan found emptied => exact .run draws scan found emptied
    | failure draws scan found failed emptied =>
      exact .failure draws (scan ▸ feed_nil r) found failed emptied

/-- A request into a target of the given length, as the bytes that it hands over. -/
def serve (r : NulReader) (length : Nat) : Except ReadFault (List UInt8) × NulReader :=
  ((r.readInto length).1.handed, (r.readInto length).2)

theorem serve_buffered (h : r.barred = none) {length : Nat} (hl : length ≤ r.unread.length) :
    r.serve length = (.ok (r.unread.take length), { r with pos := r.pos + length }) := by
  simp [serve, readInto, h, hl, Delivery.handed, Except.map, List.take_take]

/-- A request for more than is unread asks the source once. What the target has no room for stays
in the buffer. -/
theorem serve_eq_draw (h : r.barred = none) {length missing : Nat}
    (hl : length = r.unread.length + missing) (hm : 0 < missing) :
    r.serve length = match r.draw (max missing r.capacity) with
      | (.error e, r') => (.error e, r')
      | (.ok bs, r') => (.ok (r.unread ++ bs.take missing),
          { r' with buffer := if r.capacity ≤ missing then [] else bs,
                    pos := if r.capacity ≤ missing then 0 else min missing bs.length }) := by
  have hn : length - r.unread.length = missing := by omega
  unfold serve readInto
  simp only [h, hn, if_neg (show ¬ length ≤ r.unread.length by omega)]
  by_cases hc : r.capacity ≤ missing
  · rw [if_pos hc, Nat.max_eq_left hc]
    rcases hp : r.reset.pull missing with ⟨e | bs, r₁⟩
    · simp only [draw, hp, Delivery.handed, Except.map]
    · rw [draw_eq hp]
      dsimp only
      rcases hi : r₁.inspect bs with ⟨e | _, r₂⟩
      · rfl
      · have hd : r.draw missing = (.ok bs, r₂) := by rw [draw_eq hp, hi]
        obtain ⟨he, hb⟩ := draw_ok hd
        simp only [if_pos hc, List.take_of_length_le hb, ← he, Delivery.handed, Except.map]
        rw [← List.length_append, List.take_length]
  · rw [if_neg hc, fill_eq_draw, Nat.max_eq_right (by omega)]
    rcases r.draw r.capacity with ⟨e | bs, r₁⟩
    · rfl
    · simp only [if_neg hc, Delivery.handed, Except.map]
      rw [List.take_of_length_le (by simp)]

theorem serve_proceeds (h : r.barred = none) (length : Nat) : Proceeds r (r.serve length) := by
  by_cases hl : length ≤ r.unread.length
  · rw [serve_buffered h hl]
    refine .hands (draws_skip hl) (feed_nil r) rfl ?_
    rw [List.append_nil]
    exact (unread_take_append_drop r length).symm
  · obtain ⟨missing, hm⟩ := Nat.exists_eq_add_of_le (Nat.le_of_not_le hl)
    rw [serve_eq_draw h hm (by omega)]
    have hd := drawn r (max missing r.capacity)
    generalize r.draw (max missing r.capacity) = result at hd ⊢
    cases hd with
    | @gives bs r' draws scan found buffer pos length =>
      by_cases hc : r.capacity ≤ missing
      · simp only [if_pos hc, List.take_of_length_le (show bs.length ≤ missing by omega)]
        refine .hands (draws.keep (Nat.le_refl 0) (Nat.zero_le _)) scan found ?_
        simp [unread]
      · simp only [if_neg hc]
        refine .hands (draws.keep (Nat.min_le_right _ _) (by omega)) scan found ?_
        rw [List.append_assoc]
        exact congrArg (r.unread ++ ·) (take_append_drop_min bs missing).symm
    | run draws scan found emptied => exact .run draws scan found emptied
    | failure draws scan found failed emptied =>
      exact .failure draws (scan ▸ feed_nil r) found failed emptied

/-! ## Blocks and what is built from them -/

theorem barred_of_same (hx : r₁.closed = r.closed) (hf : r₁.found = r.found) :
    r₁.barred = r.barred := by
  simp only [barred, hx, hf]

theorem serve_barred {e : ReadFault} (h : r.barred = some e) (length : Nat) :
    r.serve length = (.error e, r) := by
  simp [serve, readInto, h, Delivery.handed, Except.map]

theorem readBlock_eq_serve {length : Int} (hl : 1 ≤ length)
    (hm : memoryFault? length.toNat = none) : r.readBlock length = r.serve length.toNat := by
  unfold readBlock serve
  rw [if_neg (by omega)]
  simp only [hm]
  match hr : r.readInto length.toNat with
  | (⟨stored, .error e⟩, r₁) => rfl
  | (⟨stored, .ok n⟩, r₁) =>
    have hn := (pending_readInto hr).2
    simp [Delivery.handed, Except.map, ← hn]

/-- If a fault names a run of zeros, it is the one that stopped the reader. -/
def Names (r : NulReader) (e : ReadFault) : Prop :=
  ∀ first, e = .nulRun first → r.found = some first

theorem names_of_barred {e : ReadFault} (h : r.barred = some e) : r.Names e := by
  rintro first rfl
  unfold barred at h
  split at h
  · simp at h
  · simpa using h

theorem readBlock_barred {e : ReadFault} (h : r.barred = some e) (length : Int) :
    ∃ e, r.readBlock length = (.error e, r) ∧ r.Names e := by
  by_cases hl : length < 1
  · exact ⟨_, by rw [readBlock, if_pos hl], by simp [Names]⟩
  · match hm : memoryFault? length.toNat with
    | some fault => exact ⟨.memory fault, by simp only [readBlock, if_neg hl, hm], by simp [Names]⟩
    | none =>
      exact ⟨e, by rw [readBlock_eq_serve (by omega) hm, serve_barred h], names_of_barred h⟩

/-- A block is refused for its length alone when that is no length of a block. -/
theorem readBlock_refused {length : Int} (h : length < 1 ∨ memoryFault? length.toNat ≠ none) :
    ∃ e, r.readBlock length = (.error e, r) ∧ r.Names e := by
  by_cases hl : length < 1
  · exact ⟨_, by rw [readBlock, if_pos hl], by simp [Names]⟩
  · match hm : memoryFault? length.toNat with
    | some fault => exact ⟨.memory fault, by simp only [readBlock, if_neg hl, hm], by simp [Names]⟩
    | none => exact absurd hm (h.resolve_left hl)

theorem readBlock_proceeds (h : r.barred = none) {length : Int} (hl : 1 ≤ length)
    (hm : memoryFault? length.toNat = none) : Proceeds r (r.readBlock length) := by
  rw [readBlock_eq_serve hl hm]
  exact serve_proceeds h _

theorem Proceeds.barred {bs : List UInt8} (h : Proceeds r (.ok bs, r₁)) :
    r₁.barred = r.barred := by
  cases h with
  | hands draws scan found balance => exact barred_of_same draws.closed found

theorem Proceeds.steady {bs : List UInt8} (h : Proceeds r (.ok bs, r₁))
    (hs : r.source.Steady) : r₁.source.Steady := by
  cases h with
  | hands draws scan found balance => exact draws.steady hs

/-- What comes of reading on after some bytes were handed over. -/
theorem Proceeds.andThen {bs : List UInt8} (h : Proceeds r (.ok bs, r₁))
    {result : Except ReadFault (List UInt8) × NulReader} (h' : Proceeds r₁ result) :
    Proceeds r (result.1.map (bs ++ ·), result.2) := by
  cases h with
  | @hands fresh _ _ draws scan found balance =>
    have hf (more : List UInt8) : r.scan.feed r.threshold (fresh ++ more) =
        r₁.scan.feed r₁.threshold more := by
      rw [NulScan.feed_append, scan, draws.threshold]
      rfl
    cases h' with
    | @hands more rest r₂ draws' scan' found' balance' =>
      refine .hands (draws.trans draws') ((hf more).trans scan') (found'.trans found) ?_
      rw [← List.append_assoc, balance, List.append_assoc, balance', List.append_assoc]
    | run draws' scan' found' emptied =>
      exact .run (draws.trans draws') ((hf _).trans scan') found' emptied
    | failure draws' scan' found' failed emptied =>
      exact .failure (draws.trans draws') ((hf _).trans scan') (found'.trans found)
        (draws.failures _ failed) emptied

theorem proceeds_nil (r : NulReader) : Proceeds r (.ok [], r) :=
  .hands (draws_skip (Nat.zero_le _)) (feed_nil r) rfl (by rw [List.append_nil]; rfl)

theorem memoryFault?_mono {m n : Nat} (h : memoryFault? n = none) (hm : m ≤ n) :
    memoryFault? m = none := by
  unfold memoryFault? at h ⊢
  split at h
  · cases h
  · rw [if_neg (by omega)]

theorem readUpTo_proceeds (h : r.barred = none) {length : Nat}
    (hm : memoryFault? length = none) : Proceeds r (r.readUpTo length) := by
  induction length using Nat.strong_induction_on generalizing r with
  | _ length ih =>
    rw [readUpTo]
    split
    · exact proceeds_nil r
    · have hb : Proceeds r (r.readBlock length) := readBlock_proceeds h (by omega) hm
      match hr : r.readBlock length with
      | (.error e, r₁) => rwa [hr] at hb
      | (.ok [], r₁) => rwa [hr] at hb
      | (.ok (b :: bs), r₁) =>
        rw [hr] at hb
        have hi := ih (length - (bs.length + 1)) (by omega) (hb.barred.trans h)
          (memoryFault?_mono hm (by omega))
        have ha := hb.andThen hi
        match hr' : r₁.readUpTo (length - (bs.length + 1)) with
        | (.error e, r₂) => simpa [hr', Except.map] using ha
        | (.ok rest, r₂) => simpa [hr', Except.map] using ha

/-- The reader can be asked for blocks of its buffer's size. -/
structure Ready (r : NulReader) : Prop where
  clear : r.barred = none
  positive : 1 ≤ r.capacity
  fits : memoryFault? r.capacity = none

theorem Ready.proceeds (h : Ready r) : Proceeds r (r.readBlock r.capacity) := by
  have := h.positive
  exact readBlock_proceeds h.clear (by omega) h.fits

theorem Ready.after (h : Ready r) {bs : List UInt8} (hb : Proceeds r (.ok bs, r₁)) : Ready r₁ := by
  have hx := hb.barred.trans h.clear
  cases hb with
  | hands draws scan found balance =>
    exact ⟨hx, draws.capacity ▸ h.positive, draws.capacity ▸ h.fits⟩

theorem readToEnd_proceeds (h : Ready r) : Proceeds r r.readToEnd := by
  have hb := h.proceeds
  fun_induction readToEnd r with
  | case1 r e r₁ hr => rwa [hr] at hb
  | case2 r r₁ hr => rwa [hr] at hb
  | case3 r b bs r₁ hr e r₂ hr' ih =>
    rw [hr] at hb
    have h₁ := h.after hb
    have ha := hb.andThen (ih h₁ h₁.proceeds)
    simpa [hr', Except.map] using ha
  | case4 r b bs r₁ hr rest r₂ hr' ih =>
    rw [hr] at hb
    have h₁ := h.after hb
    have ha := hb.andThen (ih h₁ h₁.proceeds)
    simpa [hr', Except.map] using ha

/-- A block comes only from a reader that is not barred, for a length of a block. -/
theorem readBlock_ok {length : Int} {bs : List UInt8} (h : r.readBlock length = (.ok bs, r₁)) :
    1 ≤ length ∧ r.barred = none ∧ r.serve length.toNat = (.ok bs, r₁) := by
  by_cases hx : length < 1 ∨ memoryFault? length.toNat ≠ none
  · obtain ⟨e, he, -⟩ := readBlock_refused (r := r) hx
    rw [he] at h
    simp at h
  rw [not_or, Int.not_lt, not_not] at hx
  cases hb : r.barred with
  | none => exact ⟨hx.1, rfl, (readBlock_eq_serve hx.1 hx.2).symm.trans h⟩
  | some e =>
    obtain ⟨e, he, -⟩ := readBlock_barred hb length
    rw [he] at h
    simp at h

/-- A block of no bytes comes only when the source and the buffer are at their end. -/
theorem pending_of_readBlock_nil {length : Int} (h : r.readBlock length = (.ok [], r₁))
    (ending : r.source.Ending) : r.pending = [] := by
  obtain ⟨hl, hb, hs⟩ := readBlock_ok h
  by_cases hu : length.toNat ≤ r.unread.length
  · -- The buffer alone would have served a byte.
    rw [serve_buffered hb hu] at hs
    have taken : r.unread.take length.toNat = [] := by simpa using congrArg Prod.fst hs
    have := congrArg List.length taken
    simp only [List.length_take, List.length_nil] at this
    omega
  · obtain ⟨missing, hn⟩ := Nat.exists_eq_add_of_le (Nat.le_of_not_le hu)
    rw [serve_eq_draw hb hn (by omega)] at hs
    have hd := drawn r (max missing r.capacity)
    generalize r.draw (max missing r.capacity) = result at hd hs
    cases hd with
    | @gives bs r' draws scan found buffer pos length ends =>
      obtain ⟨held, given⟩ : r.unread = [] ∧ bs.take missing = [] := by
        simpa only [Except.ok.injEq, List.append_eq_nil_iff] using congrArg Prod.fst hs
      have none : bs = [] := by
        rcases List.take_eq_nil_iff.1 given with hz | hz
        · omega
        · exact hz
      rw [pending, held, ends ending (by omega) none]
      rfl
    | run draws scan found emptied => simp at hs
    | failure draws scan found failed => simp at hs

/-! ## No other outcome -/

/-- What any read comes to: only a reader that is not barred proceeds. -/
inductive Settled (r : NulReader) : Except ReadFault (List UInt8) × NulReader → Prop
  | refused (e : ReadFault) (names : r.Names e) : Settled r (.error e, r)
  /-- Nothing was asked for. -/
  | idle : Settled r (.ok [], r)
  | proceeds {result : Except ReadFault (List UInt8) × NulReader} (clear : r.barred = none)
      (h : Proceeds r result) : Settled r result

theorem readByte_settled (r : NulReader) :
    Settled r ((r.readByte.1).map Option.toList, r.readByte.2) := by
  cases h : r.barred with
  | none => exact .proceeds h (readByte_proceeds h)
  | some e =>
    rw [show r.readByte = (.error e, r) by simp [readByte, h]]
    exact .refused e (names_of_barred h)

theorem serve_settled (r : NulReader) (length : Nat) : Settled r (r.serve length) := by
  cases h : r.barred with
  | none => exact .proceeds h (serve_proceeds h length)
  | some e => exact serve_barred h length ▸ .refused e (names_of_barred h)

theorem readBlock_settled (r : NulReader) (length : Int) : Settled r (r.readBlock length) := by
  by_cases hl : length < 1 ∨ memoryFault? length.toNat ≠ none
  · obtain ⟨e, he, names⟩ := readBlock_refused hl
    exact he ▸ .refused e names
  · rw [not_or, Int.not_lt, not_not] at hl
    rw [readBlock_eq_serve hl.1 hl.2]
    exact serve_settled r _

theorem readUpTo_settled (r : NulReader) (length : Nat) : Settled r (r.readUpTo length) := by
  by_cases hl : length = 0
  · rw [readUpTo, if_pos hl]
    exact .idle
  · by_cases hx : r.barred = none ∧ memoryFault? length = none
    · exact .proceeds hx.1 (readUpTo_proceeds hx.1 hx.2)
    · obtain ⟨e, he, names⟩ : ∃ e, r.readBlock length = (.error e, r) ∧ r.Names e := by
        cases hb : r.barred with
        | some e => exact readBlock_barred hb length
        | none => exact readBlock_refused (.inr fun hm => hx ⟨hb, hm⟩)
      rw [readUpTo, if_neg hl, he]
      exact .refused e names

theorem readToEnd_refused {e : ReadFault} (h : r.readBlock r.capacity = (.error e, r)) :
    r.readToEnd = (.error e, r) := by
  rw [readToEnd]
  split
  · rename_i hr
    exact hr.symm.trans h
  · rename_i hr
    simp [hr] at h
  · rename_i hr
    simp [hr] at h

theorem readToEnd_settled (r : NulReader) : Settled r r.readToEnd := by
  by_cases hx : r.barred = none ∧ 1 ≤ r.capacity ∧ memoryFault? r.capacity = none
  · exact .proceeds hx.1 (readToEnd_proceeds ⟨hx.1, hx.2.1, hx.2.2⟩)
  · obtain ⟨e, he, names⟩ : ∃ e, r.readBlock r.capacity = (.error e, r) ∧ r.Names e := by
      cases hb : r.barred with
      | some e => exact readBlock_barred hb r.capacity
      | none =>
        refine readBlock_refused ?_
        by_contra hn
        rw [not_or, Int.not_lt, not_not] at hn
        exact hx ⟨hb, by omega, hn.2⟩
    rw [readToEnd_refused he]
    exact .refused e names

theorem read_settled (r : NulReader) (size : Option Int) : Settled r (r.read size) := by
  unfold read
  split
  · exact readToEnd_settled r
  · split
    · exact readToEnd_settled r
    · exact readUpTo_settled r _

end NulReader

end TabAudit
