import TabAudit.Proofs.Disk.Tree
import TabAudit.Scan.Scanner

/-!
# The order of a listing

A listing has the entries of a directory, each once. But for links, directories come before
anything else and entries of a kind are in the order of their names.
-/

namespace TabAudit.Scanner

theorem Ranked.le_iff (a b : Ranked) :
    a.le b = true ↔ if a.isDirectory = b.isDirectory then a.name ≤ b.name
      else a.isDirectory = true := by
  unfold Ranked.le
  split
  · rw [Bool.not_eq_true', decide_eq_false_iff_not, not_lt]
  · rfl

theorem Ranked.le_trans (a b c : Ranked) (hab : a.le b = true) (hbc : b.le c = true) :
    a.le c = true := by
  rw [le_iff] at hab hbc ⊢
  cases ha : a.isDirectory <;> cases hb : b.isDirectory <;> cases hc : c.isDirectory <;>
    simp_all
  · exact Trans.trans hab hbc
  · exact Trans.trans hab hbc

theorem Ranked.le_or_le (a b : Ranked) : (a.le b || b.le a) = true := by
  rw [Bool.or_eq_true, le_iff, le_iff]
  cases ha : a.isDirectory <;> cases hb : b.isDirectory <;> simp
  · exact le_total a.name b.name
  · exact le_total a.name b.name

theorem pairwise_mergeSort_ranked (ranked : List Ranked) :
    (ranked.mergeSort Ranked.le).Pairwise fun a b => a.le b = true :=
  List.pairwise_mergeSort Ranked.le_trans Ranked.le_or_le ranked

/-- Where an entry that is no link can be asked about, it leads to itself. -/
theorem eq_isDirectory_of_leads {d : Disk} {names : List String} {node : Node} {kind : Bool}
    (plain : node.isLink = false) (h : leadsToDirectory d names node = .ok kind) :
    kind = node.isDirectory := by
  unfold leadsToDirectory target Disk.ifThere at h
  cases node with
  | link => cases plain
  | unasked cause =>
    cases passed : cause.isPassedOver
    · simp [passed] at h
    · simpa [passed, Node.isDirectory] using h.symm
  | _ =>
    by_cases long : Disk.pathLimit ≤ (d.display names).utf8ByteSize
    · simp [long, DiskCause.isPassedOver] at h
    · simpa [long] using h.symm

/-- An entry that is no link is ranked by what it is. -/
theorem isDirectory_of_rank {d : Disk} {names : List String} {entries : List (String × Node)}
    {ranked : List Ranked} (h : rank d names entries = .ok ranked) :
    ∀ r ∈ ranked, r.node.isLink = false → r.isDirectory = r.node.isDirectory := by
  induction entries generalizing ranked with
  | nil => cases h; simp
  | cons e rest ih =>
    obtain ⟨name, node⟩ := e
    unfold rank at h
    split at h
    · cases h
    · rename_i isDirectory kind
      split at h
      · cases h
      · rename_i later hr
        cases h
        exact List.forall_mem_cons.mpr ⟨fun plain => eq_isDirectory_of_leads plain kind, ih hr⟩

/-- When the kind of every entry can be told, there is a rank for each. -/
theorem rank_ok {d : Disk} {names : List String} {entries : List (String × Node)}
    (h : ∀ e ∈ entries, ∃ kind, leadsToDirectory d (names ++ [e.1]) e.2 = .ok kind) :
    ∃ ranked, rank d names entries = .ok ranked := by
  induction entries with
  | nil => exact ⟨[], rfl⟩
  | cons e rest ih =>
    obtain ⟨kind, hk⟩ := h e (by simp)
    obtain ⟨ranked, hr⟩ := ih fun e he => h e (by simp [he])
    exact ⟨⟨kind, e.1, e.2⟩ :: ranked, by rw [rank, hk, hr]⟩

/-- The listing of a directory that can be listed: its entries in their order. -/
theorem listing_ordered {d : Disk} {names : List String} {entries : List (String × Node)}
    (distinct : (entries.map Prod.fst).Nodup)
    (kinds : ∀ e ∈ entries, ∃ kind, leadsToDirectory d (names ++ [e.1]) e.2 = .ok kind) :
    ∃ listed, listing d names (.directory none entries) = .ok listed ∧ listed.Perm entries ∧
      listed.Pairwise fun a b => a.1 ≠ b.1 ∧
        (a.2.isLink = false → b.2.isLink = false → Node.EntryBefore a b) := by
  obtain ⟨ranked, hr⟩ := rank_ok kinds
  let sorted := ranked.mergeSort Ranked.le
  have listed : listing d names (.directory none entries) =
      .ok (sorted.map fun r => (r.name, r.node)) := by
    rw [listing, hr]
  have perm : (sorted.map fun r => (r.name, r.node)).Perm entries := listing_perm listed
  refine ⟨_, listed, perm, ?_⟩
  have apart : (sorted.map fun r => (r.name, r.node)).Pairwise fun a b => a.1 ≠ b.1 :=
    List.pairwise_map.mp ((perm.map Prod.fst).nodup_iff.mpr distinct)
  have inOrder : sorted.Pairwise fun a b => a.le b = true := pairwise_mergeSort_ranked ranked
  rw [List.pairwise_map] at apart ⊢
  refine (apart.and inOrder).imp_of_mem fun {a b} ha hb ⟨differ, le⟩ => ⟨differ, ?_⟩
  intro plainA plainB
  have kindA := isDirectory_of_rank hr a (List.mem_mergeSort.mp ha) plainA
  have kindB := isDirectory_of_rank hr b (List.mem_mergeSort.mp hb) plainB
  rw [Ranked.le_iff, kindA, kindB] at le
  unfold Node.EntryBefore
  split
  · rename_i same
    rw [if_pos same] at le
    exact lt_of_le_of_ne le differ
  · rename_i other
    rwa [if_neg other] at le

end TabAudit.Scanner
