import Concord.Controller.Cycle
import Concord.Proofs.ClockStep
import Concord.Proofs.PeerRound

/-!
# What a round of the controller can do

A later round ends in one of five ways (`Controller.CycleEnd`), and the first one in one of four
(`Controller.FirstSyncEnd`). The main statements are `cycle_end` and `firstSync_end`, that these are
all ways, each with the result and the controller that it leaves. Whatever is said about rounds is
derived from them, so the steps of a round are taken apart only here.
-/

namespace Concord

/-! ## The reference -/

namespace Quorum

/-- An eligible sample is a sample of a valid stratum of the healthy peer at its place. -/
theorem mem_eligible_iff {peers : List Peer} {r : Reference} :
    r ∈ eligible peers ↔ peers[r.peerIndex]? = some r.peer ∧ r.peer.healthy = true ∧
      r.peer.samples[r.sampleIndex]? = some r.sample ∧ r.sample.stratum < invalidStratum := by
  obtain ⟨i, j, p, s⟩ := r
  simp only [eligible, List.mem_flatMap, Prod.exists, List.mk_mem_zipIdx_iff_getElem?, eligibleOf]
  constructor
  · rintro ⟨q, k, hq, hmem⟩
    split at hmem
    · rename_i hhealthy
      simp only [List.mem_map, List.mem_filter, Prod.exists, List.mk_mem_zipIdx_iff_getElem?,
        decide_eq_true_eq, Reference.mk.injEq] at hmem
      obtain ⟨t, l, ⟨ht, hstratum⟩, rfl, rfl, rfl, rfl⟩ := hmem
      exact ⟨hq, hhealthy, ht, hstratum⟩
    · cases hmem
  · rintro ⟨hp, hhealthy, hs, hstratum⟩
    refine ⟨p, i, hp, ?_⟩
    rw [if_pos hhealthy]
    simp only [List.mem_map, List.mem_filter, Prod.exists, List.mk_mem_zipIdx_iff_getElem?,
      decide_eq_true_eq, Reference.mk.injEq]
    exact ⟨s, j, ⟨hs, hstratum⟩, by simp⟩

/-- The eligible samples with their peers: of every healthy peer those of a valid stratum. -/
theorem map_eligible {α : Type} (f : Peer → Sample → α) (peers : List Peer) :
    (eligible peers).map (fun r => f r.peer r.sample) = peers.flatMap fun p =>
      if p.healthy then
        (p.samples.filter fun s => decide (s.stratum < invalidStratum)).map (f p)
      else [] := by
  have hone (i : Nat) (p : Peer) : (eligibleOf i p).map (fun r => f r.peer r.sample) =
      if p.healthy then (p.samples.filter fun s => decide (s.stratum < invalidStratum)).map (f p)
      else [] := by
    unfold eligibleOf
    cases p.healthy with
    | false => rfl
    | true =>
      rw [if_pos rfl, if_pos rfl, List.map_map]
      have hfilter : p.samples.filter (fun s => decide (s.stratum < invalidStratum)) =
          (p.samples.zipIdx.filter fun s => decide (s.1.stratum < invalidStratum)).map
            Prod.fst := by
        conv => lhs; rw [← List.zipIdx_map_fst 0 p.samples]
        rw [List.filter_map]
        rfl
      rw [hfilter, List.map_map]
      rfl
  unfold eligible
  rw [List.map_flatMap]
  simp only [hone]
  conv => rhs; rw [← List.zipIdx_map_fst 0 peers]
  rw [List.flatMap_map]

/-- The reference of a round is one of the eligible samples. -/
theorem mem_eligible_of_choose {peers : List Peer} {required : Number} {r : Reference}
    (h : choose peers required = some r) : r ∈ eligible peers := by
  unfold choose median at h
  split at h
  · cases h
  · exact (sortByOffset_perm _).mem_iff.1 (List.mem_of_getElem? h)

end Quorum

namespace Controller

/-! ## The parts of a round -/

/-- The peers after a round of polling. -/
def polledPeers (c : Controller) (setup : Bool) (w : World) : List Peer :=
  (pollPeers c.peers c.config.maxStd setup w).1

/-- The peer at a place after a round of polling is what its own outcomes make of the one before. -/
theorem polledPeers_at {c : Controller} {setup : Bool} {w : World} {i : Nat} {q : Peer}
    (hq : (c.polledPeers setup w)[i]? = some q) :
    ∃ p w', c.peers[i]? = some p ∧
      (roundOutcomes c.config.maxStd setup c.peers w)[i]? =
        some (if p.enabled then p.outcomes setup w' else []) ∧
      q = p.polled c.config.maxStd setup (p.outcomes setup w') := by
  obtain ⟨p, hp⟩ := exists_of_pollPeers_at hq
  obtain ⟨w', houtcomes, hpolled⟩ := pollPeers_at c.config.maxStd setup w hp
  exact ⟨p, w', hp, houtcomes, Option.some.inj (hq.symm.trans hpolled)⟩

/-- Polling leaves alone what does not depend on the health of the peers. -/
theorem map_polledPeers {α : Type} (f : Peer → α)
    (hf : ∀ p maxStd setup outcomes, f (Peer.polled p maxStd setup outcomes) = f p)
    (c : Controller) (setup : Bool) (w : World) :
    (c.polledPeers setup w).map f = c.peers.map f := by
  refine List.ext_getElem? fun i => ?_
  rw [List.getElem?_map, List.getElem?_map]
  cases hq : (c.polledPeers setup w)[i]? with
  | none =>
    have hi : (c.polledPeers setup w).length ≤ i := List.getElem?_eq_none_iff.1 hq
    rw [polledPeers, length_pollPeers] at hi
    rw [List.getElem?_eq_none hi]
  | some q =>
    obtain ⟨p, w', hp, -, rfl⟩ := polledPeers_at hq
    rw [hp, Option.map_some, Option.map_some, hf]

/-- Polling leaves the trust in the peers alone. -/
theorem trust_polledPeers (c : Controller) (setup : Bool) (w : World) :
    (c.polledPeers setup w).map (·.trust) = c.peers.map (·.trust) :=
  map_polledPeers (·.trust) (fun _ _ _ _ => Peer.trust_polled) c setup w

/-- Polling replaces the peers, and the reference is chosen among them. -/
theorem poll_eq (c : Controller) (setup : Bool) (w : World) :
    ∃ w', c.poll setup w = (Quorum.choose (c.polledPeers setup w) c.quorum,
      { c with peers := c.polledPeers setup w }, w') := ⟨_, rfl⟩

/-- A correction of the clock is done or fails, and touches only what is known of the clock. -/
theorem correct_end (c : Controller) (r : Reference) (leap : Int) (w : World) :
    (∃ reason pendingLeap w', c.correct r leap w = (some (.clockWrite r.offset reason),
        { c with clock := { c.clock with pendingLeap } }, w')) ∨
      ∃ w', c.correct r leap w =
        (none, { c with clock := c.clock.corrected r.offset leap }, w') := by
  unfold correct
  obtain ⟨reason, pendingLeap, w', h⟩ | ⟨w', h⟩ :=
    c.clock.apply_end r.offset leap c.config.forceUpdate.isSet w
  · exact .inl ⟨reason, pendingLeap, w', by rw [h]⟩
  · exact .inr ⟨w', by rw [h]⟩

/-- What is kept from a reference touches only what is known of the last one. -/
theorem record_frame (c : Controller) (r : Reference) (now : Binary64) :
    ∃ offset delay dispersion lastSync template, (c.record r now).2 =
      { c with offset, delay, dispersion, lastSync, template } := by
  simp only [record]
  split
  · exact ⟨_, _, _, _, _, rfl⟩
  · split <;> exact ⟨_, _, _, _, _, rfl⟩

/-- What is published touches only what is known and measured of the last reference. -/
theorem publish_frame {c d : Controller} {r : Reference} {w : World} {result : Option Fault}
    (h : c.publish r w = (result, d)) :
    ∃ offset delay dispersion lastSync template gauges,
      d = { c with offset, delay, dispersion, lastSync, template, gauges } := by
  obtain ⟨offset, delay, dispersion, lastSync, template, hrecord⟩ := c.record_frame r w.now
  rcases hrun : c.record r w.now with ⟨fault, e⟩
  rw [hrun] at hrecord
  simp only at hrecord
  subst hrecord
  cases fault <;> simp only [publish, hrun] at h <;> cases h <;>
    exact ⟨offset, delay, dispersion, lastSync, template, _, rfl⟩

/-- A reference whose dispersion and template can be made is published whole. -/
theorem publish_eq (c : Controller) (r : Reference) (w : World) {dispersion : Binary64}
    {template : Template} (hdispersion : dispersionOf r.peer = .ok dispersion)
    (htemplate : Template.fromReference r c.sleep dispersion w.now = .ok template) :
    c.publish r w = (none, { c with
      offset := some r.offset, delay := r.sample.delay, dispersion, lastSync := some w.now
      template
      gauges := c.gauges.map fun _ =>
        ⟨c.sleep, r.sample.delay, r.offset, dispersion⟩ }) := by
  have hrecord : c.record r w.now = (none, { c with
      offset := some r.offset, delay := r.sample.delay, dispersion, lastSync := some w.now
      template }) := by
    simp [record, hdispersion, htemplate]
  simp only [publish, hrecord, measure]

/-! ## Whole rounds -/

/-- The ways in which a later round ends, given the peers after its polling: the result and the
controller that it leaves. -/
inductive CycleEnd (c : Controller) (peers : List Peer) :
    Except Trouble (Option Reference) → Controller → Prop where
  /-- There is no reference. -/
  | noReference : Quorum.choose peers c.quorum = none →
      CycleEnd c peers (.ok none)
        { c with peers, cycles := c.cycles + 1, sleep := c.pace.retryWait }
  /-- The correction of the clock is refused or fails. -/
  | refused {r : Reference} (reason : String) (pendingLeap : Int) :
      Quorum.choose peers c.quorum = some r →
      CycleEnd c peers (.error (.failure (.clockWrite r.offset reason)))
        { c with peers, cycles := c.cycles + 1, clock := { c.clock with pendingLeap } }
  /-- The trust in the reference's peer has no place in the table of waits. -/
  | noWait {r : Reference} {fault : Fault} :
      Quorum.choose peers c.quorum = some r → c.pace.next peers (some r) = .error fault →
      CycleEnd c peers (.error (.fault fault))
        { c with
          peers, cycles := c.cycles + 1, clock := c.clock.corrected r.offset r.sample.leap }
  /-- What the reference says cannot be published. -/
  | unpublished {r : Reference} {sleep : Binary64} {trusted : List Peer} {w : World}
      {fault : Fault} {d : Controller} :
      Quorum.choose peers c.quorum = some r → c.pace.next peers (some r) = .ok (sleep, trusted) →
      { c with
        peers := trusted, cycles := c.cycles + 1, sleep
        clock := c.clock.corrected r.offset r.sample.leap }.publish r w = (some fault, d) →
      CycleEnd c peers (.error (.fault fault)) d
  /-- The clock is corrected and what the reference says is published. -/
  | published {r : Reference} {sleep : Binary64} {trusted : List Peer} {w : World}
      {d : Controller} :
      Quorum.choose peers c.quorum = some r → c.pace.next peers (some r) = .ok (sleep, trusted) →
      { c with
        peers := trusted, cycles := c.cycles + 1, sleep
        clock := c.clock.corrected r.offset r.sample.leap }.publish r w = (none, d) →
      CycleEnd c peers (.ok (some r)) d

/-- A later round ends in one of these ways. -/
theorem cycle_end (c : Controller) (w : World) :
    CycleEnd c (c.polledPeers false w) (c.cycle w).1 (c.cycle w).2.1 := by
  obtain ⟨w₁, hpoll⟩ := c.poll_eq false w
  generalize c.polledPeers false w = peers at hpoll ⊢
  cases hchoose : Quorum.choose peers c.quorum with
  | none =>
    simp only [cycle, hpoll, hchoose]
    exact .noReference hchoose
  | some r =>
    simp only [cycle, hpoll, hchoose]
    obtain ⟨reason, pendingLeap, w₂, hcorrect⟩ | ⟨w₂, hcorrect⟩ :=
      { c with peers, cycles := c.cycles + 1 }.correct_end r r.sample.leap w₁
    · rw [hcorrect]
      exact .refused reason pendingLeap hchoose
    · -- Only after the correction does the pace turn to the peers.
      rw [hcorrect]
      simp only [settle, adapt]
      cases hnext : c.pace.next peers (some r) with
      | error fault => exact .noWait hchoose hnext
      | ok paced =>
        obtain ⟨sleep, trusted⟩ := paced
        simp only
        split <;> rename_i hpublish
        · exact .unpublished hchoose hnext hpublish
        · exact .published hchoose hnext hpublish

/-- The ways in which the first round ends, given the peers after its polling. -/
inductive FirstSyncEnd (c : Controller) (peers : List Peer) :
    Except Trouble Reference → Controller → Prop where
  /-- There is no reference. -/
  | noReference (failure : Failure) : Quorum.choose peers c.quorum = none →
      FirstSyncEnd c peers (.error (.failure failure)) { c with phase := .firstSync, peers }
  /-- The correction of the clock is refused or fails. -/
  | refused {r : Reference} (reason : String) (pendingLeap : Int) :
      Quorum.choose peers c.quorum = some r →
      FirstSyncEnd c peers (.error (.failure (.clockWrite r.offset reason)))
        { c with phase := .firstSync, peers, clock := { c.clock with pendingLeap } }
  /-- What the reference says cannot be published. -/
  | unpublished {r : Reference} {w : World} {fault : Fault} {d : Controller} :
      Quorum.choose peers c.quorum = some r →
      { c with phase := .firstSync, peers, clock := c.clock.corrected r.offset 0 }.publish r w =
        (some fault, d) →
      FirstSyncEnd c peers (.error (.fault fault)) d
  /-- The clock is corrected and what the reference says is published. -/
  | published {r : Reference} {w : World} {d : Controller} :
      Quorum.choose peers c.quorum = some r →
      { c with phase := .firstSync, peers, clock := c.clock.corrected r.offset 0 }.publish r w =
        (none, d) →
      FirstSyncEnd c peers (.ok r) d

/-- The first round ends in one of these ways. -/
theorem firstSync_end (c : Controller) (w : World) :
    FirstSyncEnd c (c.polledPeers true w) (c.firstSync w).1 (c.firstSync w).2.1 := by
  obtain ⟨w₁, hpoll⟩ := { c with phase := .firstSync }.poll_eq true w
  -- The phase has no part in polling.
  have hpeers : { c with phase := .firstSync }.polledPeers true w = c.polledPeers true w := rfl
  rw [hpeers] at hpoll
  generalize c.polledPeers true w = peers at hpoll ⊢
  cases hchoose : Quorum.choose peers c.quorum with
  | none =>
    simp only [firstSync, hpoll, hchoose]
    exact .noReference _ hchoose
  | some r =>
    simp only [firstSync, hpoll, hchoose]
    obtain ⟨reason, pendingLeap, w₂, hcorrect⟩ | ⟨w₂, hcorrect⟩ :=
      { c with phase := .firstSync, peers }.correct_end r 0 w₁
    · rw [hcorrect]
      exact .refused reason pendingLeap hchoose
    · rw [hcorrect]
      simp only
      split <;> rename_i hpublish
      · exact .unpublished hchoose hpublish
      · exact .published hchoose hpublish

end Controller

end Concord
