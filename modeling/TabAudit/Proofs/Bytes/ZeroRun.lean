import Mathlib.Data.List.TakeWhile
import TabAudit.Bytes.NulScan
/-!
# The scan finds the first run of zeros

`NulScan.feed` skips from zero to zero. `NulScan.count` goes byte by byte, and `feed_eq_count`
says that the two end in the same state. `NulScan.Tracks` ties such a state to the bytes scanned
so far, and `Tracks.reports_feed` says what a further piece makes of it.
-/

namespace TabAudit

/-- The bytes from position `first` on start with `size` zeros. -/
def ZeroRunAt (size : Nat) (bs : List UInt8) (first : Nat) : Prop :=
  ∀ i < size, bs[first + i]? = some 0

/-- `first` is where the earliest `size` zeros in a row begin. -/
def FirstZeroRun (size : Nat) (bs : List UInt8) (first : Nat) : Prop :=
  ZeroRunAt size bs first ∧ ∀ k < first, ¬ ZeroRunAt size bs k

theorem ZeroRunAt.append {size k : Nat} {bs : List UInt8} (h : ZeroRunAt size bs k)
    (more : List UInt8) : ZeroRunAt size (bs ++ more) k := by
  intro i hi
  obtain ⟨hl, hz⟩ := List.getElem?_eq_some_iff.1 (h i hi)
  rw [List.getElem?_append_left hl]
  exact h i hi

/-- A run that ends within the front is one of the front. -/
theorem ZeroRunAt.of_append {size k : Nat} {bs more : List UInt8}
    (h : ZeroRunAt size (bs ++ more) k) (hk : k + size ≤ bs.length) : ZeroRunAt size bs k := by
  intro i hi
  have hr := h i hi
  rwa [List.getElem?_append_left (by omega)] at hr

theorem ZeroRunAt.le_length {size k : Nat} {bs : List UInt8} (h : ZeroRunAt size bs k)
    (hs : 0 < size) : k + size ≤ bs.length := by
  have hl := (List.getElem?_eq_some_iff.1 (h (size - 1) (by omega))).1
  omega

theorem FirstZeroRun.append {size k : Nat} {bs : List UInt8} (h : FirstZeroRun size bs k)
    (hs : 0 < size) (more : List UInt8) : FirstZeroRun size (bs ++ more) k := by
  refine ⟨h.1.append more, fun j hj hr => h.2 j hj (hr.of_append ?_)⟩
  have := h.1.le_length hs
  omega

namespace NulScan

/-- The state after a zero. -/
def zero (s : NulScan) : NulScan :=
  ⟨s.run + 1, if s.run = 0 then s.scanned else s.start, s.scanned + 1⟩

/-- The state after any other byte. -/
def other (s : NulScan) : NulScan := ⟨0, s.start, s.scanned + 1⟩

/-- The scan of a piece one byte at a time. -/
def count (threshold : Nat) (s : NulScan) : List UInt8 → NulScan × Bool
  | [] => (s, false)
  | b :: bs =>
    if b = 0 then
      if threshold ≤ s.run + 1 then (s.zero, true) else count threshold s.zero bs
    else count threshold s.other bs

/-! ## Skipping comes to the same -/

theorem count_others (threshold : Nat) (s : NulScan) (plain rest : List UInt8)
    (h : ∀ b ∈ plain, b ≠ 0) :
    count threshold s (plain ++ rest) =
      count threshold ⟨if plain.isEmpty then s.run else 0, s.start, s.scanned + plain.length⟩
        rest := by
  induction plain generalizing s with
  | nil => rfl
  | cons b plain ih =>
    have hb : b ≠ 0 := h b (by simp)
    rw [List.cons_append, count, if_neg hb, ih _ (fun c hc => h c (by simp [hc]))]
    simp only [other, List.isEmpty_cons, List.length_cons, ite_self, Bool.false_eq_true, if_false]
    rw [Nat.add_right_comm, Nat.add_assoc]

/-- A row of zeros either completes a run at its byte `missing` or lengthens the one in progress. -/
theorem count_zeros (threshold : Nat) (s : NulScan) (n : Nat) (rest : List UInt8) :
    count threshold s (List.replicate (n + 1) 0 ++ rest) =
      if max 1 (threshold - s.run) ≤ n + 1 then
        (⟨s.run + max 1 (threshold - s.run), s.zero.start,
          s.scanned + max 1 (threshold - s.run)⟩, true)
      else count threshold ⟨s.run + (n + 1), s.zero.start, s.scanned + (n + 1)⟩ rest := by
  induction n generalizing s with
  | zero =>
    rw [List.replicate_one, List.singleton_append, count, if_pos rfl]
    by_cases ht : threshold ≤ s.run + 1
    · have hm : max 1 (threshold - s.run) = 1 := by omega
      rw [if_pos ht, hm, if_pos (Nat.le_refl 1)]
      rfl
    · rw [if_neg ht, if_neg (by omega)]
      rfl
  | succ n ih =>
    -- The first zero may complete the run. If not, one zero less is missing behind it.
    rw [List.replicate_succ, List.cons_append, count, if_pos rfl]
    by_cases ht : threshold ≤ s.run + 1
    · have hm : max 1 (threshold - s.run) = 1 := by omega
      rw [if_pos ht, hm, if_pos (by omega)]
      rfl
    · have hz : s.zero.zero.start = s.zero.start := by simp [zero]
      have hm : max 1 (threshold - s.zero.run) + 1 = max 1 (threshold - s.run) := by
        simp only [zero]; omega
      rw [if_neg ht, ih, hz, ← hm, show s.zero.run = s.run + 1 from rfl,
        show s.zero.scanned = s.scanned + 1 from rfl]
      simp only [Nat.add_le_add_iff_right, Nat.add_assoc, Nat.add_comm 1]

/-- The same for the zeros that a piece starts with. -/
theorem count_front (threshold : Nat) (s : NulScan) (tail : List UInt8) :
    count threshold s (0 :: tail) =
      if max 1 (threshold - s.run) ≤ ((0 :: tail).takeWhile (· == 0)).length then
        (⟨s.run + max 1 (threshold - s.run), s.zero.start,
          s.scanned + max 1 (threshold - s.run)⟩, true)
      else count threshold ⟨s.run + ((0 :: tail).takeWhile (· == 0)).length, s.zero.start,
        s.scanned + ((0 :: tail).takeWhile (· == 0)).length⟩ (tail.dropWhile (· == 0)) := by
  have hz : tail.takeWhile (· == 0) = List.replicate (tail.takeWhile (· == 0)).length 0 := by
    rw [List.eq_replicate_iff]
    exact ⟨rfl, fun b hb => by simpa using List.mem_takeWhile_imp hb⟩
  have ht : 0 :: tail = List.replicate ((tail.takeWhile (· == 0)).length + 1) 0 ++
      tail.dropWhile (· == 0) := by
    rw [List.replicate_succ, ← hz, List.cons_append, List.takeWhile_append_dropWhile]
  have hl : ((0 :: tail).takeWhile (· == 0)).length = (tail.takeWhile (· == 0)).length + 1 := by
    simp
  rw [hl, ← count_zeros, ← ht]

/-- Up to its first zero a piece only ends the run in progress. -/
theorem count_skipped (threshold : Nat) (s : NulScan) {piece tail : List UInt8} {z : UInt8}
    (h : piece.dropWhile (· != 0) = z :: tail) :
    z = 0 ∧ count threshold s piece =
      count threshold ⟨if (piece.takeWhile (· != 0)).isEmpty then s.run else 0, s.start,
        s.scanned + (piece.takeWhile (· != 0)).length⟩ (z :: tail) := by
  have hz : z = 0 := by
    have := List.head_dropWhile_not (· != 0) (l := piece) (by simp [h])
    simpa [h] using this
  refine ⟨hz, ?_⟩
  have hp : piece = piece.takeWhile (· != 0) ++ (z :: tail) := by
    rw [← h, List.takeWhile_append_dropWhile]
  conv => lhs; rw [hp]
  exact count_others _ _ _ _ fun c hc => by simpa using List.mem_takeWhile_imp hc

theorem feed_eq_count (threshold : Nat) (s : NulScan) (piece : List UInt8) :
    feed threshold s piece = count threshold s piece := by
  fun_induction feed threshold s piece with
  | case1 s => rfl
  | case2 s b bs plain hd =>
    have hp : plain = b :: bs := by
      have := List.takeWhile_append_dropWhile (p := (· != 0)) (l := b :: bs)
      rwa [hd, List.append_nil] at this
    have hc := count_others threshold s plain [] fun c hc => by
      simpa using List.mem_takeWhile_imp hc
    rw [List.append_nil, hp] at hc
    rw [hc, hp]
    rfl
  | case3 s b bs plain z tail hd before run start zeros missing hm =>
    obtain ⟨rfl, hc⟩ := count_skipped threshold s hd
    rw [hc, count_front]
    exact (if_pos hm).symm
  | case4 s b bs plain z tail hd before run start zeros missing hm ih =>
    obtain ⟨rfl, hc⟩ := count_skipped threshold s hd
    rw [hc, count_front, ih]
    exact (if_neg hm).symm

theorem count_append (threshold : Nat) (s : NulScan) (a b : List UInt8) :
    count threshold s (a ++ b) =
      if (count threshold s a).2 then count threshold s a
      else count threshold (count threshold s a).1 b := by
  induction a generalizing s with
  | nil => rfl
  | cons c a ih =>
    simp only [List.cons_append, count]
    split
    · split
      · rfl
      · exact ih _
    · exact ih _

/-- A piece may be fed in two, unless the first completes a run. -/
theorem feed_append (threshold : Nat) (s : NulScan) (a b : List UInt8) :
    feed threshold s (a ++ b) =
      if (feed threshold s a).2 then feed threshold s a
      else feed threshold (feed threshold s a).1 b := by
  simp only [feed_eq_count, count_append]

/-! ## What a state knows of the bytes scanned -/

/-- The state of a scan of `bs` that has met no run of the threshold's length: the zeros at the
end of `bs` are the run in progress. -/
structure Tracks (threshold : Nat) (s : NulScan) (bs : List UInt8) : Prop where
  scanned : s.scanned = bs.length
  short : s.run < threshold
  run_le : s.run ≤ bs.length
  zeros : ∀ i, bs.length ≤ i + s.run → i < bs.length → bs[i]? = some 0
  /-- The byte before the run is no zero. -/
  ended : ∀ i, i + s.run + 1 = bs.length → bs[i]? ≠ some 0
  start : s.run ≠ 0 → s.start + s.run = bs.length
  clear : ∀ k, ¬ ZeroRunAt threshold bs k

variable {threshold : Nat} {s : NulScan} {bs : List UInt8}

theorem tracks_initial (h : 1 ≤ threshold) : Tracks threshold .initial [] where
  scanned := rfl
  short := h
  run_le := Nat.le_refl 0
  zeros := by simp
  ended := by simp
  start := fun h => absurd rfl h
  clear := fun k hk => by simpa using hk 0 h

theorem Tracks.other (h : Tracks threshold s bs) {b : UInt8} (hb : b ≠ 0) :
    Tracks threshold s.other (bs ++ [b]) where
  scanned := by simp [NulScan.other, h.scanned]
  short := by have := h.short; simp only [NulScan.other]; omega
  run_le := Nat.zero_le _
  zeros := fun i hi hl => by simp only [NulScan.other] at hi; omega
  ended := fun i hi => by
    simp only [NulScan.other, List.length_append, List.length_singleton] at hi
    obtain rfl : i = bs.length := by omega
    simpa using hb
  start := fun hr => absurd rfl hr
  clear := fun k hk => by
    have hs := h.short
    have hl := hk.le_length (by omega)
    rw [List.length_append, List.length_singleton] at hl
    refine h.clear k (hk.of_append ?_)
    -- The last byte of a run that ends with `b` would be `b`.
    by_contra hn
    have hz := hk (threshold - 1) (by omega)
    rw [show k + (threshold - 1) = bs.length by omega] at hz
    simp at hz
    exact hb hz

/-- One more zero makes a run of the threshold's length only out of one that lacks one zero. -/
theorem Tracks.not_run_zero (h : Tracks threshold s bs) {k : Nat}
    (hk : ZeroRunAt threshold (bs ++ [0]) k) : k + s.run = bs.length ∧ s.run + 1 = threshold := by
  have hs := h.short
  have hl := hk.le_length (by omega)
  rw [List.length_append, List.length_singleton] at hl
  have hend : k + threshold = bs.length + 1 := by
    by_contra hn
    exact h.clear k (hk.of_append (by omega))
  by_contra hn
  -- Else the run reaches back over the byte before the zeros at the end.
  have hz := hk (bs.length - s.run - 1 - k) (by omega)
  rw [List.getElem?_append_left (by omega)] at hz
  exact h.ended _ (by omega) hz

theorem zero_start (h : Tracks threshold s bs) : s.zero.start + s.run = bs.length := by
  by_cases hr : s.run = 0
  · simp [zero, hr, h.scanned]
  · simp only [zero, if_neg hr]
    exact h.start hr

theorem Tracks.zero (h : Tracks threshold s bs) (ht : s.run + 1 < threshold) :
    Tracks threshold s.zero (bs ++ [0]) where
  scanned := by simp [NulScan.zero, h.scanned]
  short := ht
  run_le := by have := h.run_le; simp only [NulScan.zero, List.length_append]; simp; omega
  zeros := fun i hi hl => by
    simp only [NulScan.zero, List.length_append, List.length_singleton] at hi hl
    by_cases hi' : i = bs.length
    · simp [hi']
    · rw [List.getElem?_append_left (by omega)]
      exact h.zeros i (by omega) (by omega)
  ended := fun i hi => by
    simp only [NulScan.zero, List.length_append, List.length_singleton] at hi
    rw [List.getElem?_append_left (by omega)]
    exact h.ended i (by omega)
  start := fun _ => by
    have := zero_start h
    simp only [NulScan.zero, List.length_append, List.length_singleton] at this ⊢
    omega
  clear := fun k hk => by have := h.not_run_zero hk; omega

theorem Tracks.found (h : Tracks threshold s bs) (ht : threshold ≤ s.run + 1) :
    FirstZeroRun threshold (bs ++ [0]) s.zero.start ∧
      s.zero.scanned = s.zero.start + threshold := by
  have hs := h.short
  have hst := zero_start h
  refine ⟨⟨fun i hi => ?_, fun k hk hr => ?_⟩, ?_⟩
  · by_cases hl : s.zero.start + i = bs.length
    · simp [hl]
    · rw [List.getElem?_append_left (by omega)]
      exact h.zeros _ (by omega) (by omega)
  · have := (h.not_run_zero hr).1
    omega
  · have := h.scanned
    simp only [NulScan.zero] at hst ⊢
    omega

/-- What the state and the verdict of a scan say of the bytes it was given. -/
def Reports (threshold : Nat) (bs : List UInt8) : NulScan × Bool → Prop
  | (s, true) => FirstZeroRun threshold bs s.start ∧ s.scanned = s.start + threshold
  | (s, false) => Tracks threshold s bs

theorem Tracks.reports_count (h : Tracks threshold s bs) (more : List UInt8) :
    Reports threshold (bs ++ more) (NulScan.count threshold s more) := by
  induction more generalizing s bs with
  | nil => simpa [NulScan.count, Reports] using h
  | cons b more ih =>
    rw [List.append_cons bs b more, NulScan.count]
    split
    · rename_i hb
      subst hb
      split
      · rename_i ht
        obtain ⟨hf, hn⟩ := h.found ht
        have hs := h.short
        exact ⟨hf.append (by omega) more, hn⟩
      · rename_i ht
        exact ih (h.zero (by omega))
    · rename_i hb
      exact ih (h.other hb)

/-- Feeding a piece finds the first run of the threshold's length in all that was fed, or goes on
with none. -/
theorem Tracks.reports_feed (h : Tracks threshold s bs) (piece : List UInt8) :
    Reports threshold (bs ++ piece) (feed threshold s piece) := by
  rw [feed_eq_count]
  exact h.reports_count piece

/-- A run that was not there before ends in the new bytes. -/
theorem Tracks.lt_of_firstZeroRun (h : Tracks threshold s bs) {piece : List UInt8} {first : Nat}
    (hf : FirstZeroRun threshold (bs ++ piece) first) : bs.length < first + threshold := by
  by_contra hn
  exact h.clear first (hf.1.of_append (by omega))

end NulScan

end TabAudit
