import Concord.Pace

/-!
# What one round makes of the pace

The pace turns the peers of a round and its reference into a wait and into the same peers with
another trust in each of them. `next_end` says which wait, `trusted_of_next` which trust
(`Pace.adjust`), and `fault_of_next` that there is no wait only because of a bound that is no whole
number. For bounds that are whole numbers (`Pace.Whole`) `Whole.clamp_eq` is the level that is
looked up.
-/

namespace Concord

/-- The wait of a trust level in the standard table. -/
theorem standardWaits_at {k : Nat} (h : k < 10) :
    standardWaits[k]? = some (.ofNat (2 ^ (k + 4))) := by
  unfold standardWaits
  rw [List.getElem?_map, List.getElem?_range h]
  rfl

namespace Pace

variable {pace : Pace}

/-! ## Waits -/

/-- There is a wait for every trust level that is clamped to a whole number. -/
theorem waitFor_of_clamp {trust level : Int} (h : pace.clamp trust = .int level) :
    ∃ wait, pace.waitFor trust = .ok wait ∧
      pace.waits[(level - lowestTrust).toNat]? = some wait := by
  have hlt := pace.clamp_index h
  refine ⟨pace.waits[(level - lowestTrust).toNat], ?_, List.getElem?_eq_getElem hlt⟩
  unfold waitFor
  split
  · rename_i level' hlevel
    rw [h] at hlevel
    cases hlevel
    rfl
  · rename_i x hx
    rw [h] at hx
    cases hx

/-- There is no wait for a trust level that is clamped to no whole number. -/
theorem waitFor_of_clamp_real {trust : Int} {x : Binary64} (h : pace.clamp trust = .real x) :
    pace.waitFor trust = .error (.notWhole (.real x)) := by
  unfold waitFor
  split
  · rename_i level hlevel
    rw [h] at hlevel
    cases hlevel
  · rename_i y hy
    rw [h] at hy
    cases hy
    rfl

/-- The wait of a trust level is one of the table. -/
theorem mem_waits_of_waitFor {trust : Int} {wait : Binary64} (h : pace.waitFor trust = .ok wait) :
    wait ∈ pace.waits := by
  cases hclamp : pace.clamp trust with
  | int level =>
    obtain ⟨wait', hwait, hmem⟩ := waitFor_of_clamp hclamp
    rw [hwait] at h
    cases h
    exact List.mem_of_getElem? hmem
  | real x =>
    rw [waitFor_of_clamp_real hclamp] at h
    cases h

/-- A trust level that is clamped to no whole number is clamped to one of the bounds. -/
theorem bound_of_clamp {trust : Int} {x : Binary64} (h : pace.clamp trust = .real x) :
    pace.minPoll = .real x ∨ pace.maxPoll = .real x := by
  unfold clamp Number.upper at h
  split at h
  · unfold Number.lower at h
    split at h
    · exact .inr h
    · cases h
  · exact .inl h

/-- The shortest wait is the first one of the table. -/
theorem waits_zero (pace : Pace) : pace.waits[0]? = some pace.shortestWait :=
  List.getElem?_eq_getElem pace.waits_pos

/-! ## One round -/

/-- What becomes of a peer in a round with the given reference. -/
def adjust (pace : Pace) (chosen : Option Reference) (p : Peer) : Peer :=
  match chosen with
  | none => p
  | some r => if pace.isStable r.offset then pace.raise p else { p with trust := lowestTrust }

/-- A round changes nothing of a peer but the trust in it. -/
theorem adjust_frame (pace : Pace) (chosen : Option Reference) (p : Peer) :
    ∃ trust, pace.adjust chosen p = { p with trust } := by
  cases chosen with
  | none => exact ⟨p.trust, rfl⟩
  | some r =>
    simp only [adjust, raise]
    split
    · split <;> exact ⟨_, rfl⟩
    · exact ⟨lowestTrust, rfl⟩

variable {peers trusted : List Peer} {chosen : Option Reference} {r : Reference} {wait : Binary64}

/-- After a round with a reference either its offset was small and there is a wait for the trust in
its peer, or all trust is reset. -/
theorem next_end (h : pace.next peers (some r) = .ok (wait, trusted)) :
    (pace.isStable r.offset = true ∧ pace.waitFor r.peer.trust = .ok wait ∧
        trusted = peers.map pace.raise) ∨
      (pace.isStable r.offset = false ∧ wait = pace.shortestWait ∧
        trusted = peers.map fun p => { p with trust := lowestTrust }) := by
  simp only [next] at h
  cases hstable : pace.isStable r.offset with
  | true =>
    rw [hstable, if_pos rfl] at h
    cases hwait : pace.waitFor r.peer.trust with
    | error fault =>
      rw [hwait] at h
      cases h
    | ok found =>
      rw [hwait] at h
      cases h
      exact .inl ⟨rfl, rfl, rfl⟩
  | false =>
    rw [hstable] at h
    cases h
    exact .inr ⟨rfl, rfl, rfl⟩

/-- The trust in the peers after a round. -/
theorem trusted_of_next (h : pace.next peers chosen = .ok (wait, trusted)) :
    trusted = peers.map (pace.adjust chosen) := by
  cases chosen with
  | none =>
    cases h
    exact (List.map_id peers).symm
  | some r =>
    obtain ⟨hstable, -, htrusted⟩ | ⟨hstable, -, htrusted⟩ := next_end h <;>
      simp [htrusted, adjust, hstable]

/-- The wait after a round without a reference. -/
theorem wait_of_next_none (h : pace.next peers none = .ok (wait, trusted)) :
    wait = pace.retryWait := by
  cases h
  rfl

/-- The wait after a round with a reference is one of the table. -/
theorem mem_waits_of_next (h : pace.next peers (some r) = .ok (wait, trusted)) :
    wait ∈ pace.waits := by
  obtain ⟨-, hwait, -⟩ | ⟨-, rfl, -⟩ := next_end h
  · exact mem_waits_of_waitFor hwait
  · exact List.mem_of_getElem? pace.waits_zero

/-- There is no wait only because of a bound that is no whole number. -/
theorem fault_of_next {fault : Fault} (h : pace.next peers (some r) = .error fault) :
    ∃ x, fault = .notWhole (.real x) ∧ pace.clamp r.peer.trust = .real x := by
  simp only [next] at h
  split at h
  · cases hclamp : pace.clamp r.peer.trust with
    | int level =>
      obtain ⟨wait, hwait, -⟩ := waitFor_of_clamp hclamp
      rw [hwait] at h
      cases h
    | real x =>
      rw [waitFor_of_clamp_real hclamp] at h
      cases h
      exact ⟨x, rfl, rfl⟩
  · cases h

/-! ## Whole bounds -/

/-- The bounds of the trust levels are whole numbers. -/
structure Whole (pace : Pace) (low high : Int) : Prop where
  minPoll : pace.minPoll = .int low
  maxPoll : pace.maxPoll = .int high

namespace Whole

variable {low high : Int}

/-- Whole bounds are in order, and the lower one is a trust level. -/
theorem bounds (h : pace.Whole low high) : lowestTrust ≤ low ∧ low ≤ high := by
  have hlow := pace.lowest_le
  have hhigh := pace.min_le_max
  rw [h.minPoll] at hlow hhigh
  rw [h.maxPoll] at hhigh
  exact ⟨Number.le_int.1 hlow, Number.le_int.1 hhigh⟩

/-- Between whole bounds a trust level is clamped to a whole number. -/
theorem clamp_eq (h : pace.Whole low high) (trust : Int) :
    pace.clamp trust = .int (max low (min trust high)) := by
  have hlower : (Number.int trust).lower pace.maxPoll = .int (min trust high) := by
    rw [h.maxPoll, Number.lower]
    split <;> rename_i hlt <;> rw [Number.lt_int] at hlt <;> congr 1 <;> omega
  rw [clamp, hlower, h.minPoll, Number.upper]
  split <;> rename_i hlt <;> rw [Number.lt_int] at hlt <;> congr 1 <;> omega

/-- A healthy peer below the upper bound gains a level of trust. -/
theorem trust_raise (h : pace.Whole low high) (p : Peer) :
    (pace.raise p).trust = if p.healthy ∧ p.trust < high then p.trust + 1 else p.trust := by
  have hlt : ((Number.int p.trust).lt pace.maxPoll = true) ↔ p.trust < high := by
    rw [h.maxPoll, Number.lt_int]
  unfold raise
  simp only [Bool.and_eq_true, hlt]
  split <;> rfl

end Whole

end Pace

end Concord
