import Mathlib
import TabAudit.Proofs.Bytes.Alike
import TabAudit.Proofs.Bytes.Request

/-!
# Reading block by block

A read goes round a loop: it asks for a block of what it still wants, or of the buffer's size if it
wants all there is, until it has enough or a block is empty. A block that is not empty takes from
what is pending, so the loop ends (`rounds_read`). From a source that ends, in which there is no run
of zeros, it hands over exactly what was wanted (`run_reads_whole`).
-/

namespace TabAudit

namespace NulReader

/-- How many bytes a read of the given size wants, if not all there are. -/
def wanted (size : Option Int) : Option Nat :=
  size.bind fun n => if n < 0 then none else some n.toNat

/-- The loop of a read, by the rounds that it goes: for so many bytes, or for all that there are. -/
inductive Rounds :
    Option Nat → NulReader → Nat → Except ReadFault (List UInt8) × NulReader → Prop
  /-- No more is wanted. -/
  | done {r : NulReader} : Rounds (some 0) r 0 (.ok [], r)
  | fails {left : Option Nat} {r r' : NulReader} {e : ReadFault} (more : left ≠ some 0)
      (block : r.readBlock (left.getD r.capacity : Nat) = (.error e, r')) :
      Rounds left r 1 (.error e, r')
  /-- There is no more. -/
  | ends {left : Option Nat} {r r' : NulReader} (more : left ≠ some 0)
      (block : r.readBlock (left.getD r.capacity : Nat) = (.ok [], r')) :
      Rounds left r 1 (.ok [], r')
  | goesOn {left : Option Nat} {r r₁ r' : NulReader} {b : UInt8} {bs : List UInt8} {rounds : Nat}
      {outcome : Except ReadFault (List UInt8)} (more : left ≠ some 0)
      (block : r.readBlock (left.getD r.capacity : Nat) = (.ok (b :: bs), r₁))
      (rest : Rounds (left.map (· - (bs.length + 1))) r₁ rounds (outcome, r')) :
      Rounds left r (rounds + 1) (outcome.map (b :: bs ++ ·), r')

variable {r r₁ : NulReader} {left : Option Nat} {rounds : Nat} {bs : List UInt8}
variable {result : Except ReadFault (List UInt8) × NulReader}

/-! ## The loop ends -/

theorem length_pending_readBlock {length : Int} (h : r.readBlock length = (.ok bs, r₁)) :
    r.pending.length = bs.length + r₁.pending.length := by
  rw [pending_readBlock h, List.length_append]

theorem rounds_readUpTo (r : NulReader) (length : Nat) :
    ∃ rounds ≤ r.pending.length + 1, Rounds (some length) r rounds (r.readUpTo length) := by
  induction length using Nat.strong_induction_on generalizing r with
  | _ length ih =>
    rw [readUpTo]
    by_cases enough : length = 0
    · rw [if_pos enough, enough]
      exact ⟨0, Nat.zero_le _, .done⟩
    have more : some length ≠ some 0 := by simpa using enough
    rw [if_neg enough]
    rcases block : r.readBlock length with ⟨e | _ | ⟨b, bs⟩, r₁⟩
    · exact ⟨1, by omega, .fails more block⟩
    · exact ⟨1, by omega, .ends more block⟩
    · obtain ⟨rounds, few, rest⟩ := ih (length - (bs.length + 1)) (by omega) r₁
      have taken := length_pending_readBlock block
      rw [List.length_cons] at taken
      refine ⟨rounds + 1, by omega, ?_⟩
      rcases readOn : r₁.readUpTo (length - (bs.length + 1)) with ⟨outcome, r₂⟩
      rw [readOn] at rest
      have on := Rounds.goesOn more block rest
      simp only [readOn]
      cases outcome <;> exact on

theorem rounds_readToEnd (r : NulReader) :
    ∃ rounds ≤ r.pending.length + 1, Rounds none r rounds r.readToEnd := by
  -- Nothing is counted down here, but a block that is not empty leaves less pending.
  induction size : r.pending.length using Nat.strong_induction_on generalizing r with
  | _ _ ih =>
    rw [readToEnd_eq]
    rcases block : r.readBlock r.capacity with ⟨e | _ | ⟨b, bs⟩, r₁⟩
    · exact ⟨1, by omega, .fails (by simp) block⟩
    · exact ⟨1, by omega, .ends (by simp) block⟩
    · have taken := length_pending_readBlock block
      rw [List.length_cons] at taken
      obtain ⟨rounds, few, rest⟩ := ih _ (by omega) r₁ rfl
      refine ⟨rounds + 1, by omega, ?_⟩
      rcases readOn : r₁.readToEnd with ⟨outcome, r₂⟩
      rw [readOn] at rest
      have on : Rounds none r (rounds + 1) (outcome.map (b :: bs ++ ·), r₂) :=
        .goesOn (by simp) block rest
      simp only [readOn]
      cases outcome <;> exact on

theorem rounds_read (r : NulReader) (size : Option Int) :
    ∃ rounds ≤ r.pending.length + 1, Rounds (wanted size) r rounds (r.read size) := by
  cases size with
  | none => exact rounds_readToEnd r
  | some n =>
    by_cases negative : n < 0
    · simp only [wanted, read, Option.bind_some, if_pos negative]
      exact rounds_readToEnd r
    · simp only [wanted, read, Option.bind_some, if_neg negative]
      exact rounds_readUpTo r n.toNat

/-- Each round is settled by the block that it asks for. -/
theorem Rounds.unique (h : Rounds left r rounds result) {n : Nat}
    {other : Except ReadFault (List UInt8) × NulReader} (h' : Rounds left r n other) :
    n = rounds ∧ other = result := by
  induction h generalizing n other with
  | done =>
    cases h' with
    | done => exact ⟨rfl, rfl⟩
    | fails more => exact absurd rfl more
    | ends more => exact absurd rfl more
    | goesOn more => exact absurd rfl more
  | fails more block =>
    cases h' with
    | done => exact absurd rfl more
    | fails _ again => exact ⟨rfl, by simpa using again.symm.trans block⟩
    | ends _ again => simp [block] at again
    | goesOn _ again => simp [block] at again
  | ends more block =>
    cases h' with
    | done => exact absurd rfl more
    | fails _ again => simp [block] at again
    | ends _ again => exact ⟨rfl, by simpa using again.symm.trans block⟩
    | goesOn _ again => simp [block] at again
  | goesOn more block rest ih =>
    cases h' with
    | done => exact absurd rfl more
    | fails _ again => simp [block] at again
    | ends _ again => simp [block] at again
    | goesOn _ again rest' =>
      obtain ⟨⟨rfl, rfl⟩, rfl⟩ := by simpa using again.symm.trans block
      obtain ⟨rfl, same⟩ := ih rest'
      cases same
      exact ⟨rfl, rfl⟩

/-- A read is the loop for what it wants, which goes at most one round more than bytes are
pending. -/
theorem rounds_iff (r : NulReader) (size : Option Int) :
    ∃ rounds ≤ r.pending.length + 1, ∀ n result,
      Rounds (wanted size) r n result ↔ n = rounds ∧ result = r.read size := by
  obtain ⟨rounds, few, loop⟩ := rounds_read r size
  refine ⟨rounds, few, fun n result => ⟨loop.unique, ?_⟩⟩
  rintro ⟨rfl, rfl⟩
  exact loop

/-! ## What it hands over -/

theorem Proceeds.ending (h : Proceeds r (.ok bs, r₁)) (ending : r.source.Ending) :
    r₁.source.Ending := by
  cases h with
  | hands draws => exact draws.ending ending

/-- The loop takes what it hands over from what is pending, no more than was wanted, and less only
if nothing is left. -/
theorem Rounds.takes (h : Rounds left r rounds result) {r' : NulReader}
    (ok : result = (.ok bs, r')) (ending : r.source.Ending) :
    r.pending = bs ++ r'.pending ∧ (∀ n, left = some n → bs.length ≤ n) ∧
      (left = some bs.length ∨ r'.pending = []) := by
  induction h generalizing bs with
  | done =>
    cases ok
    exact ⟨rfl, fun n _ => Nat.zero_le n, .inl rfl⟩
  | fails => cases ok
  | @ends left r _ more block =>
    cases ok
    have nothing := pending_of_readBlock_nil block ending
    have balance := pending_readBlock block
    exact ⟨balance, fun n _ => Nat.zero_le n, .inr (balance.symm.trans nothing)⟩
  | @goesOn left r r₁ r₂ b first rounds outcome more block rest ih =>
    cases outcome with
    | error e => cases ok
    | ok others =>
      cases ok
      obtain ⟨positive, clear, served⟩ := readBlock_ok block
      have short := length_serve_le (congrArg Prod.fst served)
      have after : r.Proceeds (.ok (b :: first), r₁) := served ▸ serve_proceeds clear _
      obtain ⟨balance, within, all⟩ := ih rfl (after.ending ending)
      have front := pending_readBlock block
      rw [balance, ← List.append_assoc] at front
      refine ⟨front, fun n wanted => ?_, all.imp_left fun rest => ?_⟩
      · -- What is wanted after the block is less by its length, and the block was no longer.
        subst wanted
        have := within _ rfl
        simp only [Option.getD_some, Int.toNat_natCast, List.length_append, List.length_cons]
          at short this ⊢
        omega
      · cases left with
        | none => simp at rest
        | some n =>
          simp only [Option.map_some, Option.getD_some, Int.toNat_natCast, Option.some.injEq,
            List.length_append, List.length_cons] at rest short ⊢
          omega

theorem read_proceeds (ready : Ready r) {size : Option Int}
    (fits : ∀ n, wanted size = some n → memoryFault? n = none) : Proceeds r (r.read size) := by
  cases size with
  | none => exact readToEnd_proceeds ready
  | some n =>
    by_cases negative : n < 0
    · simp only [read, if_pos negative]
      exact readToEnd_proceeds ready
    · simp only [read, if_neg negative]
      exact readUpTo_proceeds ready.clear (fits _ (by simp [wanted, negative]))

theorem read_too_long {n : Nat} {fault : MemoryFault} (full : memoryFault? n = some fault) :
    r.read (some n) = (.error (.memory fault), r) := by
  have positive : n ≠ 0 := by
    rintro rfl
    cases full
  have block := readBlock_too_long (r := r) (Nat.one_le_iff_ne_zero.mpr positive) full
  simp only [read, if_neg (show ¬ (n : Int) < 0 by omega), Int.toNat_natCast]
  rw [readUpTo, if_neg positive, block]

/-- What a read that succeeds hands over. -/
theorem read_ok_eq {r' : NulReader} {size : Option Int} (ending : r.source.Ending)
    (ok : r.read size = (.ok bs, r')) :
    (∀ n, wanted size = some n → bs = r.pending.take n ∧ r'.pending = r.pending.drop n) ∧
      (wanted size = none → bs = r.pending ∧ r'.pending = []) := by
  obtain ⟨rounds, -, loop⟩ := rounds_read r size
  obtain ⟨balance, within, all⟩ := loop.takes ok ending
  rw [balance]
  refine ⟨fun n some_ => ?_, fun none => ?_⟩
  · rcases all with full | nothing
    · obtain rfl : n = bs.length := Option.some.inj (some_.symm.trans full)
      exact ⟨List.take_left.symm, List.drop_left.symm⟩
    · have short := within n some_
      rw [nothing, List.append_nil, List.take_of_length_le short, List.drop_of_length_le short]
      exact ⟨rfl, rfl⟩
  · have nothing : r'.pending = [] := all.resolve_left (by simp [none])
    rw [nothing, List.append_nil]
    exact ⟨rfl, rfl⟩

/-! ## After any calls -/

theorem Settled.leads (h : r.Settled result) : r.source.Leads result.2.source := by
  cases h with
  | refused e => exact .here
  | idle => exact .here
  | proceeds clear h =>
    cases h with
    | hands draws => exact draws.leads
    | run draws => exact draws.leads
    | failure draws => exact draws.leads

/-- A call leaves of the source what answers leave of it. -/
theorem leads_make (c : ReaderCall) (r : NulReader) : r.source.Leads (c.make r).2.source := by
  rcases Session.make_cases c r with settled | same | ⟨-, closed⟩
  · exact settled.leads
  · rw [same]
    exact .here
  · rw [closed]
    exact .here

end NulReader

namespace Session

open NulReader

variable {s : Session}

theorem leads_run (s : Session) (calls : List ReaderCall) :
    s.reader.source.Leads (s.run calls).reader.source :=
  run_keeps (P := fun r => s.reader.source.Leads r.source)
    (fun c r leads => leads.trans (leads_make c r)) .here calls

/-- After any calls on a reader that can be read, over a source that ends, the loop of every read
ends, whatever is still to come. If the source holds no run of zeros, a read hands over the next
bytes that are pending, as many as it wants and there are. Only one that wants more than memory can
hold is refused. -/
theorem run_reads_whole {source : Source} {threshold capacity : Nat} {r : NulReader}
    (ht : 1 ≤ threshold) (hc : 1 ≤ capacity)
    (h : NulReader.open (some source) threshold capacity = .ok r) (ending : source.Ending)
    (calls : List ReaderCall) :
    let s := (start r).run calls
    s.reader.closed = false → s.reader.found = none →
      source.content = s.handed ++ s.reader.pending ∧
      (∀ size, ∃ rounds ≤ s.reader.pending.length + 1, ∀ n result,
        Rounds (wanted size) s.reader n result ↔ n = rounds ∧ result = s.reader.read size) ∧
      (∀ (n : Nat) (fault : MemoryFault), memoryFault? n = some fault →
        s.reader.read (some n) = (.error (.memory fault), s.reader)) ∧
      ((∀ first, ¬ ZeroRunAt threshold source.content first) →
        (∀ n : Nat, memoryFault? n = none →
          ∃ r', s.reader.read (some n) = (.ok (s.reader.pending.take n), r') ∧
            r'.pending = s.reader.pending.drop n) ∧
        ∀ size : Option Int, (∀ n ∈ size, n < 0) →
          ∃ r', s.reader.read size = (.ok s.reader.pending, r') ∧ r'.pending = []) := by
  intro s isOpen noRun
  have sound : Sound source threshold capacity s := (sound_start ht hc h).run calls
  have clear : s.reader.barred = none := by rw [barred, isOpen, noRun]; rfl
  have rest : s.reader.source.Ending := by
    obtain ⟨-, rfl⟩ := open_ok ht hc h
    exact (leads_run (start _) calls).keeps (fun answered ending => ending.answer answered) ending
  have ready : Ready s.reader := ⟨clear, by rwa [sound.capacity_eq], by
    rw [sound.capacity_eq, (open_ok ht hc h).1]⟩
  refine ⟨sound.content_eq noRun ending.neverFails, fun size => rounds_iff s.reader size,
    fun n fault => read_too_long, fun quiet => ?_⟩
  -- With no run of zeros to meet, a read that proceeds succeeds.
  have succeeds (size : Option Int) (fits : ∀ n, wanted size = some n → memoryFault? n = none) :
      ∃ bs r', s.reader.read size = (.ok bs, r') := by
    have proceeds := read_proceeds ready fits
    rcases read : s.reader.read size with ⟨e | bs, r'⟩
    · rw [read] at proceeds
      obtain ⟨first, run⟩ := sound.run_of_error noRun rest.neverFails proceeds
      exact absurd run (quiet first)
    · exact ⟨bs, r', rfl⟩
  constructor
  · intro n fits
    have all : wanted (some (n : Int)) = some n := by simp [wanted]
    obtain ⟨bs, r', ok⟩ := succeeds (some n) fun m some_ => by
      rwa [← Option.some.inj (all.symm.trans some_)]
    obtain ⟨rfl, left⟩ := (read_ok_eq rest ok).1 n all
    exact ⟨r', ok, left⟩
  · intro size unlimited
    have all : wanted size = none := by
      cases size with
      | none => rfl
      | some n => simp [wanted, unlimited n rfl]
    obtain ⟨bs, r', ok⟩ := succeeds size fun n some_ => by simp [all] at some_
    obtain ⟨rfl, nothing⟩ := (read_ok_eq rest ok).2 all
    exact ⟨r', ok, nothing⟩

/-- Reads of three, of none and of all there is, of a source that gives one byte and then two. -/
theorem run_reads_whole_twice :
    ∃ r, NulReader.open (some [.bytes [7], .bytes [0, 8], .nothing]) (2 : Nat) (4 : Nat) = .ok r ∧
      let reader := ((start r).run [.block 1]).reader
      (reader.read (some 3)).1 = .ok [0, 8] ∧ (reader.read (some 0)).1 = .ok [] ∧
      (reader.read none).1 = .ok [0, 8] ∧
      ∃ rounds ≤ 3, ∀ n result,
        Rounds none reader n result ↔ n = rounds ∧ result = reader.read none := by
  have made : NulReader.open (some [.bytes [7], .bytes [0, 8], .nothing]) (2 : Nat) (4 : Nat) =
      .ok ⟨[.bytes [7], .bytes [0, 8], .nothing], 0, 2, 4, [], 0, .initial, none, false, []⟩ := rfl
  refine ⟨_, made, ?_⟩
  obtain ⟨-, loop, -, whole⟩ := run_reads_whole (by decide) (by decide) made
    (by simp [Source.Ending, Source.content]) [.block 1] (by cbv) (by cbv)
  intro reader
  have pending : reader.pending = [0, 8] := by simp only [reader]; cbv
  have quiet (first : Nat) : ¬ ZeroRunAt 2 [7, 0, 8] first := by
    intro run
    have within : first < 2 := Nat.lt_of_add_lt_add_right (run.le_length (by decide))
    have zeros := run 0 (by decide)
    have again := run 1 (by decide)
    interval_cases first <;> simp_all
  obtain ⟨some_, all⟩ := whole quiet
  have three : (reader.read (some 3)).1 = .ok (reader.pending.take 3) := by
    obtain ⟨r', read, -⟩ := some_ 3 rfl
    exact congrArg Prod.fst read
  have zero : (reader.read (some 0)).1 = .ok (reader.pending.take 0) := by
    obtain ⟨r', read, -⟩ := some_ 0 rfl
    exact congrArg Prod.fst read
  have rest : (reader.read none).1 = .ok reader.pending := by
    obtain ⟨r', read, -⟩ := all none (by simp)
    exact congrArg Prod.fst read
  have rounds : ∃ rounds ≤ reader.pending.length + 1, ∀ n result,
      Rounds none reader n result ↔ n = rounds ∧ result = reader.read none := loop none
  rw [pending] at three zero rest rounds
  exact ⟨three, zero, rest, rounds⟩

/-- A read of more than memory can hold fails, though only one byte is pending. -/
theorem huge_read_fails :
    ∃ r, NulReader.open (some [.bytes [97]]) 1 4 = .ok r ∧ r.barred = none ∧ r.pending = [97] ∧
      (∀ first, ¬ ZeroRunAt 1 [97] first) ∧
      (r.read (some 9223372036854775808)).1 = .error (.memory .notASize) := by
  refine ⟨_, rfl, rfl, rfl, fun first run => ?_, by cbv⟩
  have within : first + 1 ≤ 1 := run.le_length (by decide)
  have zero := run 0 (by decide)
  obtain rfl : first = 0 := by omega
  cases zero

end Session

end TabAudit
