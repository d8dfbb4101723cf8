import Concord.Proofs.TwoRuns

/-!
# Failures of peers stay with them

Whatever the requests of a peer come back with, a round leaves every peer in the state that its own
outcomes make of the one before, and a peer whose own round raised a fault unhealthy and without
samples (`Contained`). So no failure of a peer ends a round or reaches another peer, and what ends a
cycle early is never the failure of a peer.

The main statement is `failures_contained`. A cycle fails in the ways of `Controller.CycleTrouble`
only: the clock is not corrected, or a bound of the trust levels that is no whole number has no
wait. It asks of the peers that are not asked any more that nothing is said against the samples they
kept, which holds in every run.
-/

namespace Concord

/-! ## Rounds -/

/-- The failures of a round stay with the peers that they befall. -/
structure Contained (peers : List Peer) (maxStd : Document) (setup : Bool) (w : World) : Prop where
  length : (pollPeers peers maxStd setup w).1.length = peers.length
  /-- What becomes of a peer is decided by its state before and by its own outcomes. -/
  own : ∀ (i : Nat) (p : Peer), peers[i]? = some p → ∃ outcomes,
    (roundOutcomes maxStd setup peers w)[i]? = some outcomes ∧
      (pollPeers peers maxStd setup w).1[i]? = some (p.polled maxStd setup outcomes)
  /-- The other peers of a list, and what the world holds for them, have no part in it. -/
  others : ∀ (peers' : List Peer) (w' : World) (i j : Nat) (p : Peer), p.AloneAt peers i →
    p.AloneAt peers' j → w'.script p.address = w.script p.address →
      (pollPeers peers' maxStd setup w').1[j]? = (pollPeers peers maxStd setup w).1[i]?
  /-- A peer whose own round raised a fault is unhealthy and has no samples. -/
  raised : ∀ (i : Nat) (q : Peer) (fault : Fault),
    (updateEach maxStd setup peers w).1[i]? = some (q, some fault) →
    ∃ r : Peer, (pollPeers peers maxStd setup w).1[i]? = some r ∧
      r.healthy = false ∧ r.samples = [] ∧ r.lastError = some fault.message

/-- A fault of a peer's round is dealt with at the place of the peer. -/
theorem pollPeers_of_raised {peers : List Peer} {i : Nat} {q : Peer} {fault : Fault}
    {maxStd : Document} {setup : Bool} {w : World}
    (h : (updateEach maxStd setup peers w).1[i]? = some (q, some fault)) :
    (pollPeers peers maxStd setup w).1[i]? = some (q.afterFault fault) := by
  simp only [pollPeers, settle_fst, List.getElem?_map, h]
  rfl

/-- In every round the failures stay with the peers that they befall. -/
theorem contained (peers : List Peer) (maxStd : Document) (setup : Bool) (w : World) :
    Contained peers maxStd setup w := by
  refine ⟨length_pollPeers .., ?_, ?_, ?_⟩
  · intro i p hp
    obtain ⟨w', houtcomes⟩ := roundOutcomes_at maxStd setup w hp
    exact ⟨_, houtcomes, by rw [pollPeers_fst, List.getElem?_zipWith, hp, houtcomes]⟩
  · intro peers' w' i j p hi hj hscript
    rw [pollPeers_of_alone maxStd setup w hi, pollPeers_of_alone maxStd setup w' hj,
      Peer.outcomes_congr setup hscript]
  · intro i q fault hraised
    exact ⟨_, pollPeers_of_raised hraised, rfl, rfl, rfl⟩

namespace Controller

/-! ## Cycles -/

/-- What can end a cycle early, once a reference is chosen. -/
inductive CycleTrouble (c : Controller) (w : World) : Trouble → Prop where
  /-- The correction of the clock by the reference is refused or fails. -/
  | clockWrite {r : Reference} (reason : String) :
      Quorum.choose (c.polledPeers false w) c.quorum = some r →
      CycleTrouble c w (.failure (.clockWrite r.offset reason))
  /-- The trust in the peer of the reference is clamped to a bound that is no whole number and has
  no wait. -/
  | noWait {r : Reference} {x : Binary64} :
      Quorum.choose (c.polledPeers false w) c.quorum = some r →
      c.pace.clamp r.peer.trust = .real x → c.pace.minPoll = .real x ∨ c.pace.maxPoll = .real x →
      CycleTrouble c w (.fault (.notWhole (.real x)))

/-- The failures of a round stay with the peers that they befall, and no peer can make a cycle end
early. Both premises of the latter hold in every run. -/
theorem failures_contained :
    (∀ peers maxStd setup w, Contained peers maxStd setup w) ∧
      (∀ (c : Controller) w trouble, StandardPace c.pace → c.LiteralAddresses → c.JudgedAtRest →
        (c.cycle w).1 = .error trouble → CycleTrouble c w trouble) ∧
      ∀ c, Reachable c → StandardPace c.pace ∧ c.JudgedAtRest := by
  refine ⟨contained, ?_, fun c h => ⟨standardPace_of_reachable h, judgedAtRest_of_reachable h⟩⟩
  intro c w trouble hpace haddresses hrest htrouble
  have houtcome := cycle_outcome hpace haddresses hrest w
  rw [htrouble] at houtcome
  generalize (c.cycle w).2.1 = d at houtcome
  cases houtcome with
  | refused reason hchoose => exact .clockWrite reason hchoose
  | noWait hchoose hclamp hbound => exact .noWait hchoose hclamp hbound

/-- A first server whose answer nobody expects leaves its peer unhealthy and the other peer as it is
when both servers answer. When the clock cannot be set, the cycle says so. -/
theorem contained_of_unexpectedAnswer :
    let answer := answerOf (.ofDecimal false 1 (-3)) .zero
    let w := twoServers { default := .fault (.unexpected none) } { default := answer }
    let w' := twoServers { default := answer } { default := answer }
    (∃ r, (forward.polledPeers false w)[0]? = some r ∧ r.healthy = false ∧ r.samples = []) ∧
      (forward.polledPeers false w')[1]? = (forward.polledPeers false w)[1]? ∧
      ∃ trouble, (forward.cycle clockLocked).1 = .error trouble ∧
        CycleTrouble forward clockLocked trouble := by
  intro answer w w'
  obtain ⟨hcontained, hcycle, hruns⟩ := failures_contained
  obtain ⟨hpace, hrest⟩ := hruns forward (reachable_synced? (by decide +kernel))
  have haddresses : forward.LiteralAddresses := by
    show ∀ p ∈ forward.peers, _
    decide +kernel
  refine ⟨?_, ?_, ?_⟩
  · have hraised : (((updateEach forward.config.maxStd false forward.peers w).1[0]?).bind (·.2)) =
        some (.unexpected none) := by decide +kernel
    obtain ⟨⟨q, fault⟩, hentry, rfl⟩ := Option.bind_eq_some_iff.1 hraised
    obtain ⟨r, hr, hhealthy, hsamples, -⟩ := (hcontained _ _ _ w).raised 0 q _ hentry
    exact ⟨r, hr, hhealthy, hsamples⟩
  · have hnodup : (forward.peers.map (·.address)).Nodup := by decide +kernel
    obtain ⟨p, hp⟩ : ∃ p, forward.peers[1]? = some p :=
      Option.isSome_iff_exists.1 (by decide +kernel)
    have halone := Peer.aloneAt_of_nodup hnodup hp
    refine (hcontained _ _ _ w).others _ w' 1 1 p halone halone ?_
    have haddress : forward.peers[1]?.map (·.address) = some "192.0.2.2" := by decide +kernel
    rw [hp, Option.map_some, Option.some.injEq] at haddress
    rw [haddress]
    decide +kernel
  · have hfails : (forward.cycle clockLocked).1.isOk = false := by decide +kernel
    cases hresult : (forward.cycle clockLocked).1 with
    | ok r =>
      rw [hresult] at hfails
      cases hfails
    | error trouble =>
      exact ⟨trouble, rfl, hcycle forward clockLocked trouble hpace haddresses hrest hresult⟩

/-- With a lower bound of one and a half a cycle can end in a fault that is no failure to correct
the clock. -/
theorem notWhole_of_fractionalBound :
    Reachable fractionalSynced.1 ∧ fractionalSynced.1.LiteralAddresses ∧
      fractionalSynced.2.clockFault = none ∧
      ∃ x, (fractionalSynced.1.cycle fractionalSynced.2).1 =
        .error (.fault (.notWhole (.real x))) := by
  refine ⟨reachable_fractionalSynced, literal_fractionalSynced, by decide +kernel, ?_⟩
  -- Of the ways in which a cycle ends only one leaves a fault.
  have hfault : (match (fractionalSynced.1.cycle fractionalSynced.2).1 with
      | .error (.fault _) => true
      | _ => false) = true := by decide +kernel
  have houtcome := cycle_outcome_of_reachable reachable_fractionalSynced
    literal_fractionalSynced fractionalSynced.2
  split at hfault
  · rename_i fault hresult
    rw [hresult] at houtcome ⊢
    cases houtcome with
    | noWait => exact ⟨_, rfl⟩
  · cases hfault

end Controller

end Concord
