import Concord.Proofs.Majority
import Concord.Proofs.PeerIsolation
import Mathlib.Data.List.Nodup

/-!
# The order of peers and of answers

What a round makes of a peer does not depend on the order of its answers: the deviation of samples
is computed exactly before it is rounded (`deviation?_perm`), so the judgement on them is the same
(`Peer.Alike.polled`). And which offset the reference has does not depend on the order of the peers,
because the sorted offsets of the same samples are the same (`rank_of_choose`). Only between samples
of equal offsets does the order decide; where there are none, the reference is the same sample from
the same address (`placed_eq_of_choose`).
-/

namespace Concord

/-! ## Samples in any order -/

/-- A sum does not depend on the order. -/
theorem total_perm {xs ys : List Int} (h : xs.Perm ys) : total xs = total ys :=
  h.foldl_eq' (fun _ _ _ _ _ => Int.add_right_comm ..) 0

/-- A variance does not depend on the order. -/
theorem scaledVariance_perm {xs ys : List Int} (h : xs.Perm ys) :
    scaledVariance xs = scaledVariance ys := by
  unfold scaledVariance
  rw [h.length_eq, total_perm h, total_perm (h.map fun x => x * x)]

/-- The values in units of finite numbers. -/
theorem mapM_units? {xs : List Binary64} (h : ∀ x ∈ xs, x.units? ≠ none) :
    xs.mapM Binary64.units? = some (xs.filterMap Binary64.units?) := by
  induction xs with
  | nil => rfl
  | cons x rest ih =>
    obtain ⟨units, hunits⟩ := Option.ne_none_iff_exists'.1 (h x List.mem_cons_self)
    rw [List.mapM_cons, hunits, ih fun y hy => h y (List.mem_cons_of_mem _ hy),
      List.filterMap_cons_some hunits]
    rfl

/-- A deviation does not depend on the order. -/
theorem deviation?_perm {xs ys : List Binary64} (h : xs.Perm ys) :
    deviation? xs = deviation? ys := by
  by_cases hfinite : ∀ x ∈ xs, x.units? ≠ none
  · have hperm : (xs.filterMap Binary64.units?).Perm (ys.filterMap Binary64.units?) :=
      h.filterMap _
    unfold deviation?
    rw [mapM_units? hfinite, mapM_units? fun y hy => hfinite y (h.mem_iff.2 hy)]
    simp only [Option.map_some, scaledVariance_perm hperm, hperm.length_eq]
  · -- An offset that is not finite has no deviation wherever it stands.
    have hinfinite : ∃ x ∈ xs, x.units? = none := by
      by_contra hnone
      exact hfinite fun x hx heq => hnone ⟨x, hx, heq⟩
    have hinfinite' : ∃ y ∈ ys, y.units? = none := by
      obtain ⟨x, hx, heq⟩ := hinfinite
      exact ⟨x, h.mem_iff.1 hx, heq⟩
    rw [(deviation?_eq_none_iff xs).2 hinfinite, (deviation?_eq_none_iff ys).2 hinfinite']

/-- A reordered list has no element or only one, or both lists have two or more. -/
theorem perm_cases {α : Type} {xs ys : List α} (h : xs.Perm ys) :
    (xs = [] ∧ ys = []) ∨ (∃ x, xs = [x] ∧ ys = [x]) ∨
      ∃ x x' xs' y y' ys', xs = x :: x' :: xs' ∧ ys = y :: y' :: ys' := by
  cases xs with
  | nil => exact .inl ⟨rfl, h.nil_eq.symm⟩
  | cons x xs =>
    cases xs with
    | nil => exact .inr (.inl ⟨x, rfl, (List.singleton_perm.1 h).symm⟩)
    | cons x' xs =>
      cases ys with
      | nil => exact absurd h.eq_nil (List.cons_ne_nil _ _)
      | cons y ys =>
        cases ys with
        | nil => exact absurd (List.perm_singleton.1 h) (by simp)
        | cons y' ys => exact .inr (.inr ⟨x, x', xs, y, y', ys, rfl, rfl⟩)

/-- The judgement on samples does not depend on their order. -/
theorem judge_perm {xs ys : List Binary64} (h : xs.Perm ys) (limit : Document) :
    judge xs limit = judge ys limit := by
  rcases perm_cases h with ⟨rfl, rfl⟩ | ⟨x, rfl, rfl⟩ | ⟨x, x', xs, y, y', ys, rfl, rfl⟩
  · rfl
  · rfl
  · simp only [judge, deviation?_perm h]

/-! ## Peers -/

namespace Peer

/-- The peers are at the same address and in the same state, but for the order of their samples. -/
structure Alike (p q : Peer) : Prop where
  address : p.address = q.address
  enabled : p.enabled = q.enabled
  healthy : p.healthy = q.healthy
  trust : p.trust = q.trust
  maxSamples : p.maxSamples = q.maxSamples
  samples : p.samples.Perm q.samples

instance (p q : Peer) : Decidable (p.Alike q) :=
  decidable_of_iff (p.address = q.address ∧ p.enabled = q.enabled ∧ p.healthy = q.healthy ∧
      p.trust = q.trust ∧ p.maxSamples = q.maxSamples ∧ p.samples.Perm q.samples)
    ⟨fun ⟨haddress, henabled, hhealthy, htrust, hmax, hsamples⟩ =>
      ⟨haddress, henabled, hhealthy, htrust, hmax, hsamples⟩,
      fun h => ⟨h.address, h.enabled, h.healthy, h.trust, h.maxSamples, h.samples⟩⟩

/-- The answers to as many requests as a round has, by the script of the peer's address. -/
def answers (p : Peer) (w : World) : List Outcome :=
  Script.upcoming p.requestCount (w.script p.address)

/-- Answers without a fault are all heard in a later round. -/
theorem outcomes_eq_answers {p : Peer} {w : World} (h : ∀ o ∈ p.answers w, o.fault? = none) :
    p.outcomes false w = p.answers w := by
  suffices hheard : ∀ outcomes : List Outcome, (∀ o ∈ outcomes, o.fault? = none) →
      heard false outcomes = outcomes from hheard _ h
  intro outcomes hnone
  induction outcomes with
  | nil => rfl
  | cons o rest ih =>
    have hlast : o.isLast false = false := by
      rw [Outcome.isLast, not_cutsOff_false, hnone o List.mem_cons_self]
      rfl
    rw [heard, hlast, if_neg Bool.false_ne_true,
      ih fun e he => hnone e (List.mem_cons_of_mem _ he)]

/-- Of answers without a fault the samples that are not rejected are kept and judged. -/
theorem afterRound_answers {p : Peer} {count : Int} (hcount : p.maxSamples = .int count)
    (maxStd : Document) {outcomes : List Outcome} (h : ∀ o ∈ outcomes, o.fault? = none) :
    ∃ lastError, p.afterRound maxStd false outcomes =
      p.judged { samples := kept outcomes, lastError } maxStd := by
  have hfault := (p.fault_foldl_hear_eq_none false outcomes {}).2 ⟨rfl, h⟩
  have hsamples := p.samples_foldl_hear false outcomes {}
  have hreach := p.unreachable_foldl_hear false outcomes {}
  have hcut : outcomes.any (·.cutsOff false) = false := by
    rw [List.any_eq_false]
    intro o _
    rw [not_cutsOff_false]
    exact Bool.false_ne_true
  rw [hcut] at hreach
  unfold afterRound
  rw [hcount]
  simp only [hfault]
  generalize outcomes.foldl (p.hear false) {} = g at *
  obtain ⟨samples, lastError, unreachable, fault⟩ := g
  simp only at hfault hsamples hreach
  subst hfault hsamples hreach
  exact ⟨lastError, rfl⟩

/-- What is judged alike stays alike. -/
theorem Alike.judged {p q : Peer} (h : p.Alike q) {kept kept' : List Sample}
    (hperm : kept.Perm kept') (lastError lastError' : Option String) (maxStd : Document) :
    (p.judged { samples := kept, lastError } maxStd).Alike
      (q.judged { samples := kept', lastError := lastError' } maxStd) := by
  have hjudge := judge_perm (hperm.map (·.offset)) maxStd
  obtain ⟨haddress, henabled, hhealthy, htrust, hmax, hsamples⟩ := h
  unfold Peer.judged
  simp only [offsets, hjudge]
  cases judge (kept'.map (·.offset)) maxStd with
  | error fault => exact ⟨haddress, by simp [afterFault, henabled], rfl, htrust, hmax, .refl _⟩
  | ok unusable =>
    cases unusable <;> exact ⟨haddress, by simp [henabled], rfl, htrust, hmax, hperm⟩

/-- A round without faults leaves peers alike that got the same answers in any order. -/
theorem Alike.polled {p q : Peer} (h : p.Alike q) (maxStd : Document) {w w' : World}
    (hanswers : p.enabled = true → (p.answers w).Perm (q.answers w') ∧
      ∀ o ∈ p.answers w, o.fault? = none) :
    (p.polled maxStd false (p.outcomes false w)).Alike
      (q.polled maxStd false (q.outcomes false w')) := by
  cases he : p.enabled with
  | false =>
    rw [polled_of_disabled he, polled_of_disabled (h.enabled ▸ he)]
    exact h
  | true =>
    obtain ⟨hperm, hnone⟩ := hanswers he
    have hnone' : ∀ o ∈ q.answers w', o.fault? = none := fun o ho =>
      hnone o (hperm.mem_iff.2 ho)
    rw [Peer.polled, Peer.polled, if_pos he, if_pos (h.enabled ▸ he), outcomes_eq_answers hnone,
      outcomes_eq_answers hnone']
    cases hcount : p.maxSamples with
    | real x =>
      -- A number of requests that is not whole is the same fault for both.
      unfold afterRound
      rw [← h.maxSamples, hcount]
      exact ⟨h.address, h.enabled, rfl, h.trust, h.maxSamples, .refl _⟩
    | int count =>
      obtain ⟨lastError, heq⟩ := afterRound_answers hcount maxStd hnone
      obtain ⟨lastError', heq'⟩ := afterRound_answers (h.maxSamples ▸ hcount) maxStd hnone'
      rw [heq, heq']
      exact h.judged (hperm.filterMap _) lastError lastError' maxStd

end Peer

/-- The same peers in another order, each alike. -/
def Matched (peers others : List Peer) : Prop :=
  ∃ reordered, peers.Perm reordered ∧ List.Forall₂ Peer.Alike reordered others

namespace Matched

variable {peers others : List Peer}

/-- Each peer has one that is alike. -/
theorem exists_alike (h : Matched peers others) {p : Peer} (hp : p ∈ peers) :
    ∃ q ∈ others, p.Alike q := by
  obtain ⟨reordered, hperm, hall⟩ := h
  have hmem := hperm.mem_iff.1 hp
  clear hperm hp
  induction hall with
  | nil => cases hmem
  | cons hfirst _ ih =>
    rcases List.mem_cons.1 hmem with rfl | hmem
    · exact ⟨_, List.mem_cons_self, hfirst⟩
    · obtain ⟨q, hq, halike⟩ := ih hmem
      exact ⟨q, List.mem_cons_of_mem _ hq, halike⟩

/-- What is done alike to peers that are alike leaves them matched. -/
theorem map (h : Matched peers others) {f g : Peer → Peer}
    (hfg : ∀ p ∈ peers, ∀ q, p.Alike q → (f p).Alike (g q)) :
    Matched (peers.map f) (others.map g) := by
  obtain ⟨reordered, hperm, hall⟩ := h
  refine ⟨reordered.map f, hperm.map f, ?_⟩
  have hboth : ∀ p ∈ reordered, ∀ q, p.Alike q → (f p).Alike (g q) := fun p hp =>
    hfg p (hperm.mem_iff.2 hp)
  clear hperm hfg
  induction hall with
  | nil => exact .nil
  | cons hfirst _ ih =>
    exact .cons (hboth _ List.mem_cons_self _ hfirst)
      (ih fun p hp => hboth p (List.mem_cons_of_mem _ hp))

end Matched

/-! ## The reference -/

namespace Quorum

/-- A sample and the address that it came from. -/
def placed (r : Reference) : String × Sample := (r.peer.address, r.sample)

/-- The eligible samples of a peer with its address. -/
def offered (p : Peer) : List (String × Sample) :=
  if p.healthy then
    (p.samples.filter fun s => decide (s.stratum < invalidStratum)).map (p.address, ·)
  else []

/-- The eligible samples with the addresses that they came from. -/
theorem map_placed_eligible (peers : List Peer) :
    (eligible peers).map placed = peers.flatMap offered :=
  map_eligible (fun p s => (p.address, s)) peers

/-- Peers that are alike offer the same samples. -/
theorem offered_perm {p q : Peer} (h : p.Alike q) : (offered p).Perm (offered q) := by
  unfold offered
  rw [← h.healthy, ← h.address]
  cases p.healthy with
  | false => exact .refl _
  | true => exact (h.samples.filter _).map _

variable {peers others : List Peer}

/-- Matched peers offer the same samples. -/
theorem placed_perm (h : Matched peers others) :
    ((eligible peers).map placed).Perm ((eligible others).map placed) := by
  obtain ⟨reordered, hperm, hall⟩ := h
  rw [map_placed_eligible, map_placed_eligible]
  refine (hperm.flatMap_right offered).trans ?_
  clear hperm
  induction hall with
  | nil => exact .refl _
  | cons hfirst _ ih => exact (offered_perm hfirst).append ih

/-- The positions of offsets, in order. -/
def ranks (references : List Reference) : List Int := references.map (·.offset.rank)

/-- Sorted offsets of the same samples are the same. -/
theorem ranks_sortByOffset {references others : List Reference}
    (h : (references.map placed).Perm (others.map placed)) :
    ranks (sortByOffset references) = ranks (sortByOffset others) := by
  have hranks (l : List Reference) : ranks l = (l.map placed).map (·.2.offset.rank) := by
    rw [List.map_map]
    rfl
  have hperm : (ranks references).Perm (ranks others) := by
    rw [hranks, hranks]
    exact h.map _
  have hsorted (l : List Reference) : (ranks (sortByOffset l)).Pairwise (· ≤ ·) :=
    List.pairwise_map.2 (sortByOffset_pairwise l)
  have hsame (l : List Reference) : (ranks (sortByOffset l)).Perm (ranks l) :=
    (sortByOffset_perm l).map _
  exact List.Perm.eq_of_pairwise (fun a b _ _ hab hba => Int.le_antisymm hab hba)
    (hsorted references) (hsorted others)
    ((hsame references).trans (hperm.trans (hsame others).symm))

/-- Matched peers have a reference together, and its offset is the same number. -/
theorem rank_of_choose (h : Matched peers others) (required : Number) :
    (choose peers required).map (·.offset.rank) = (choose others required).map (·.offset.rank) := by
  have hperm := placed_perm h
  have hlength : (eligible peers).length = (eligible others).length := by
    simpa only [List.length_map] using hperm.length_eq
  unfold choose median tooFew
  rw [hlength]
  split
  · rfl
  · have hranks := congrArg (·[(eligible others).length / 2]?) (ranks_sortByOffset hperm)
    simpa only [ranks, List.getElem?_map] using hranks

/-- No two eligible samples have the same offset. -/
def Distinct (peers : List Peer) : Prop := (ranks (eligible peers)).Nodup

instance (peers : List Peer) : Decidable (Distinct peers) :=
  inferInstanceAs (Decidable (ranks (eligible peers)).Nodup)

/-- When no two eligible samples have the same offset, matched peers have the same reference. -/
theorem placed_eq_of_choose (h : Matched peers others) (hdistinct : Distinct peers)
    {required : Number} {r s : Reference} (hr : choose peers required = some r)
    (hs : choose others required = some s) : placed r = placed s := by
  have hrank : r.offset.rank = s.offset.rank := by
    have := rank_of_choose h required
    rw [hr, hs] at this
    exact Option.some.inj this
  -- The other reference is a sample here, too, and of its offset there is only one.
  have hmem : placed s ∈ (eligible peers).map placed :=
    (placed_perm h).mem_iff.2 (List.mem_map_of_mem (mem_eligible_of_choose hs))
  obtain ⟨t, ht, hplaced⟩ := List.mem_map.1 hmem
  have hsame : t.offset.rank = r.offset.rank := by
    rw [hrank]
    exact congrArg (fun placed : String × Sample => placed.2.offset.rank) hplaced
  rw [← hplaced]
  congr 1
  exact (List.inj_on_of_nodup_map hdistinct ht (mem_eligible_of_choose hr) hsame).symm

end Quorum

end Concord
