/-!
# Runs of zero bytes

A file counts as binary once a given number of zero bytes stand in a row. The scan goes through
the bytes piece by piece, skips to the next zero, and carries an unfinished run over to the next
piece.
-/

namespace TabAudit

/-- Where a scan stands: the zeros of the run in progress, where that run began, and how many
bytes have been scanned. -/
structure NulScan where
  run : Nat
  start : Nat
  scanned : Nat
  deriving DecidableEq, Repr

namespace NulScan

/-- Nothing scanned yet. -/
def initial : NulScan := ⟨0, 0, 0⟩

/-- The state after a piece, and whether a run reached the threshold. The scan stops at the byte
that completes such a run. -/
def feed (threshold : Nat) (s : NulScan) (piece : List UInt8) : NulScan × Bool :=
  match piece with
  | [] => (s, false)
  | b :: bs =>
    let plain := (b :: bs).takeWhile (· != 0)
    match _h : (b :: bs).dropWhile (· != 0) with
    | [] => (⟨0, s.start, s.scanned + plain.length⟩, false)
    | z :: tail =>
      let before := s.scanned + plain.length
      let run := if plain.isEmpty then s.run else 0
      let start := if run = 0 then before else s.start
      let zeros := ((z :: tail).takeWhile (· == 0)).length
      let missing := max 1 (threshold - run)
      if missing ≤ zeros then (⟨run + missing, start, before + missing⟩, true)
      else feed threshold ⟨run + zeros, start, before + zeros⟩ (tail.dropWhile (· == 0))
termination_by piece.length
decreasing_by
  have h₁ : (tail.dropWhile (· == 0)).length ≤ tail.length := by
    exact (List.dropWhile_sublist _).length_le
  have h₂ : (z :: tail).length ≤ (b :: bs).length := by
    rw [← _h]; exact (List.dropWhile_sublist _).length_le
  simp only [List.length_cons] at h₂ ⊢
  omega

end NulScan

end TabAudit
