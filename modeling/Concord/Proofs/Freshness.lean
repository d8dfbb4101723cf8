import Concord.Proofs.Runs

/-!
# Which samples a round chooses from

A round chooses its reference among the eligible samples of the peers that its polling leaves. They
ought to be fresh (`Round.Fresh`): returned in this very round, by a peer that is still asked after
it. A peer that is asked has no other samples. But the first round can leave a peer that has
samples, is healthy, and is not asked any more: its address turned out to be out of reach only after
it had answered (`Round.Stranded`). No later round touches such a peer, and its samples stay
eligible for ever.

The main statement is `fresh_iff_none_stranded`: that is the only way in which a run comes to stale
samples. `events_poll` says that the outcomes of a round, among which its samples are, are those of
the requests that it makes.
-/

namespace Concord

/-! ## Rounds -/

namespace Round

/-- What the requests of a round come back with, peer by peer. -/
def outcomes (round : Round) (setup : Bool) : List (List Outcome) :=
  roundOutcomes round.controller.config.maxStd setup round.controller.peers round.world

/-- A request of the round to the peer at a place came back with the sample. -/
def Returned (round : Round) (setup : Bool) (i : Nat) (s : Sample) : Prop :=
  ∃ own, (round.outcomes setup)[i]? = some own ∧ .sample s ∈ own

/-- The round chooses only among samples that were returned in it by peers that are still asked. -/
def Fresh (round : Round) (setup : Bool) : Prop :=
  ∀ r ∈ Quorum.eligible (round.polled setup),
    r.peer.enabled = true ∧ round.Returned setup r.peerIndex r.sample

/-- In the round, as the first one, the address of the peer at a place turned out to be out of reach
after the peer had given samples that nothing is said against. -/
def Stranded (round : Round) (i : Nat) : Prop :=
  ∃ own, (round.outcomes true)[i]? = some own ∧ (∃ o ∈ own, o.cutsOff true = true) ∧
    judge ((kept own).map (·.offset)) round.controller.config.maxStd = .ok none

/-- The events of a round's polling are its requests, one for each outcome. -/
theorem events_poll (round : Round) (setup : Bool) :
    (round.controller.poll setup round.world).2.2.events = round.world.events ++
      (List.zipWith Peer.queries round.controller.peers (round.outcomes setup)).flatten := by
  have hnote : ∀ (candidates : List Reference) (required : Number) (w : World),
      (Quorum.noteMedian candidates required w).events = w.events := by
    intro candidates required w
    unfold Quorum.noteMedian
    split
    · rfl
    · dsimp only
      split <;> rfl
  have hpoll := events_pollPeers round.controller.peers round.controller.config.maxStd setup
    round.world
  rw [← outcomes] at hpoll
  rw [← hpoll]
  exact hnote _ _ _

variable {round : Round} {setup : Bool} {i : Nat} {q : Peer}

/-- The samples of a peer that was asked in a round and is healthy after it were returned in it. -/
theorem returned_of_asked {p : Peer} (hp : round.controller.peers[i]? = some p)
    (hq : (round.polled setup)[i]? = some q) (hasked : p.enabled = true)
    (hhealthy : q.healthy = true) {s : Sample} (hs : s ∈ q.samples) :
    round.Returned setup i s := by
  obtain ⟨p', w', hp', houtcomes, rfl⟩ := Controller.polledPeers_at hq
  obtain rfl : p' = p := Option.some.inj (hp'.symm.trans hp)
  rw [if_pos hasked] at houtcomes
  rw [Peer.samples_of_healthy _ _ _ _ hasked hhealthy] at hs
  exact ⟨_, houtcomes, mem_outcomes_of_mem_kept hs⟩

/-- What a first round does to a peer that is asked: it is out of reach but healthy exactly if it is
stranded. -/
theorem stranded_iff {p : Peer} (hp : round.controller.peers[i]? = some p)
    (hasked : p.enabled = true) (hq : (round.polled true)[i]? = some q) :
    q.enabled = false ∧ q.healthy = true ↔ round.Stranded i := by
  obtain ⟨p', w', hp', houtcomes, rfl⟩ := Controller.polledPeers_at hq
  obtain rfl : p' = p := Option.some.inj (hp'.symm.trans hp)
  rw [if_pos hasked] at houtcomes
  rw [Peer.enabled_polled, hasked, Peer.healthy_polled_iff _ _ _ _ hasked]
  rw [Bool.true_and, Bool.not_eq_false', List.any_eq_true]
  constructor
  · rintro ⟨hcut, -, hjudge⟩
    exact ⟨_, houtcomes, hcut, hjudge⟩
  · rintro ⟨own, hown, ⟨o, ho, hcut⟩, hjudge⟩
    obtain rfl := Option.some.inj (houtcomes.symm.trans hown)
    -- An address out of reach ends the round, which therefore came to no fault.
    exact ⟨⟨o, ho, hcut⟩, fun e he => fault?_of_cutsOff ho hcut he, hjudge⟩

/-- A peer that was asked in a round and is healthy after it has an eligible sample. -/
theorem exists_eligible {p : Peer} (hp : round.controller.peers[i]? = some p)
    (hq : (round.polled setup)[i]? = some q) (hasked : p.enabled = true)
    (hhealthy : q.healthy = true) :
    ∃ r ∈ Quorum.eligible (round.polled setup), r.peer = q := by
  obtain ⟨p', w', hp', -, hpolled⟩ := Controller.polledPeers_at hq
  obtain rfl : p' = p := Option.some.inj (hp'.symm.trans hp)
  rw [hpolled] at hhealthy
  have hjudge := ((Peer.healthy_polled_iff _ _ _ _ hasked).1 hhealthy).2
  have hsamples := Peer.samples_of_healthy _ _ _ _ hasked hhealthy
  rw [← hpolled] at hhealthy hsamples
  -- Samples that nothing is said against are not none at all.
  cases hkept : kept (p'.outcomes setup w') with
  | nil =>
    rw [hkept] at hjudge
    cases hjudge
  | cons s rest =>
    have hnone : s.rejection? = none :=
      rejection?_of_mem_kept (by rw [hkept]; exact List.mem_cons_self)
    refine ⟨⟨i, 0, q, s⟩, Quorum.mem_eligible_iff.2 ⟨hq, hhealthy, ?_, ?_⟩, rfl⟩
    · show q.samples[0]? = some s
      rw [hsamples, hkept]
      rfl
    · exact (Sample.rejection?_eq_none.1 hnone).2.1

/-- A stranded peer has an eligible sample, which makes the round stale. -/
theorem not_fresh_of_stranded {p : Peer} (hp : round.controller.peers[i]? = some p)
    (hasked : p.enabled = true) (h : round.Stranded i) : ¬ round.Fresh true := by
  have hi : i < (round.polled true).length := by
    obtain ⟨hi, -⟩ := List.getElem?_eq_some_iff.1 hp
    simpa [polled, Controller.polledPeers, length_pollPeers] using hi
  have hq : (round.polled true)[i]? = some (round.polled true)[i] := List.getElem?_eq_getElem hi
  obtain ⟨hdisabled, hhealthy⟩ := (stranded_iff hp hasked hq).2 h
  obtain ⟨r, hr, hpeer⟩ := exists_eligible hp hq hasked hhealthy
  intro hfresh
  have hstill := (hfresh r hr).1
  rw [hpeer, hdisabled] at hstill
  cases hstill

end Round

/-! ## Later rounds -/

/-- What later rounds can make of a peer: it is asked or not as before, and if it is not, its health
and its samples stay as they were. -/
structure Peer.Later (p q : Peer) : Prop where
  enabled : q.enabled = p.enabled
  healthy : p.enabled = false → q.healthy = p.healthy
  samples : p.enabled = false → q.samples = p.samples

namespace Peer.Later

/-- A peer is later than itself. -/
theorem refl (p : Peer) : p.Later p := ⟨rfl, fun _ => rfl, fun _ => rfl⟩

/-- What comes later than something later is later. -/
theorem trans {p q r : Peer} (hpq : p.Later q) (hqr : q.Later r) : p.Later r := by
  refine ⟨hqr.enabled.trans hpq.enabled, ?_, ?_⟩
  · intro h
    rw [hqr.healthy (hpq.enabled.trans h), hpq.healthy h]
  · intro h
    rw [hqr.samples (hpq.enabled.trans h), hpq.samples h]

/-- A later round makes a later peer. -/
theorem of_polled (p : Peer) (maxStd : Document) (w : World) :
    p.Later (p.polled maxStd false (p.outcomes false w)) := by
  refine ⟨?_, ?_, ?_⟩
  · -- Outside of the first round no outcome disables a peer.
    rw [enabled_polled]
    simp [not_cutsOff_false]
  · intro h
    rw [polled_of_disabled h]
  · intro h
    rw [polled_of_disabled h]

end Peer.Later

namespace Controller

/-- Later rounds make later peers. -/
theorem later_of_steady {start d : Controller} {rounds : List Round}
    (h : Steady start rounds d) {i : Nat} {q : Peer} (hq : d.peers[i]? = some q) :
    ∃ p, start.peers[i]? = some p ∧ p.Later q := by
  induction h generalizing q with
  | start => exact ⟨q, hq, .refl q⟩
  | pass _ hpass ih =>
    obtain ⟨_, _, _, _, rfl⟩ := hpass.frame
    exact ih hq
  | @cycle rounds c w _ ih =>
    obtain ⟨f, _, _, _, _, _, _, _, _, hf, heq⟩ := c.cycle_frame w
    rw [heq] at hq
    rw [List.getElem?_map, Option.map_eq_some_iff] at hq
    obtain ⟨polled, hpolled, rfl⟩ := hq
    have hround : (Round.polled ⟨c, w⟩ false)[i]? = some polled := hpolled
    obtain ⟨before, w', hbefore, -, rfl⟩ := polledPeers_at hround
    obtain ⟨p, hp, hlater⟩ := ih hbefore
    obtain ⟨trust, htrust⟩ := hf (before.polled c.config.maxStd false (before.outcomes false w'))
    refine ⟨p, hp, hlater.trans ((Peer.Later.of_polled before c.config.maxStd w').trans ?_)⟩
    rw [htrust]
    exact ⟨rfl, fun _ => rfl, fun _ => rfl⟩

/-- The rounds of the runs of a controller that begin with a first round in the given world. -/
inductive RunRound (c : Controller) (w : World) : Bool → Round → Prop where
  | first : RunRound c w true ⟨c, w⟩
  | later {rounds : List Round} {d : Controller} (w' : World) :
      Steady (c.firstSync w).2.1 rounds d → RunRound c w false ⟨d, w'⟩

variable {c : Controller} {w : World}

/-- The peer at a place after a later round comes from the first round. -/
theorem later_than_first {d : Controller} {rounds : List Round}
    (h : Steady (c.firstSync w).2.1 rounds d) {i : Nat} {p : Peer} (hp : d.peers[i]? = some p) :
    ∃ first, (Round.polled ⟨c, w⟩ true)[i]? = some first ∧ first.Later p := by
  obtain ⟨first, hfirst, hlater⟩ := later_of_steady h hp
  obtain ⟨_, _, _, _, _, _, _, heq⟩ := c.firstSync_frame w
  rw [heq] at hfirst
  exact ⟨first, hfirst, hlater⟩

/-- Every peer that a round of a run leaves comes from one that was asked in the first round. -/
theorem RunRound.origin {setup : Bool} {round : Round} (hnew : ∀ p ∈ c.peers, p.IsNew)
    (h : RunRound c w setup round) {i : Nat} {q : Peer}
    (hq : (round.polled setup)[i]? = some q) :
    ∃ p first, c.peers[i]? = some p ∧ p.enabled = true ∧
      (Round.polled ⟨c, w⟩ true)[i]? = some first ∧ first.Later q := by
  have hasked : ∀ {first : Peer}, (Round.polled ⟨c, w⟩ true)[i]? = some first →
      ∃ p, c.peers[i]? = some p ∧ p.enabled = true := by
    intro first hfirst
    obtain ⟨p, _, hp, -⟩ := polledPeers_at hfirst
    exact ⟨p, hp, (hnew p (List.mem_of_getElem? hp)).enabled⟩
  cases h with
  | first =>
    obtain ⟨p, hp, he⟩ := hasked hq
    exact ⟨p, q, hp, he, hq, .refl q⟩
  | later w' hsteady =>
    obtain ⟨before, w'', hbefore, -, rfl⟩ := polledPeers_at hq
    obtain ⟨first, hfirst, hlater⟩ := later_than_first hsteady hbefore
    obtain ⟨p, hp, he⟩ := hasked hfirst
    exact ⟨p, first, hp, he, hfirst, hlater.trans (.of_polled before _ w'')⟩

/-- After every round of a run, the peers that are healthy without being asked are the stranded
ones. -/
theorem RunRound.healthy_disabled_iff {setup : Bool} {round : Round}
    (hnew : ∀ p ∈ c.peers, p.IsNew) (h : RunRound c w setup round) {i : Nat} {q : Peer}
    (hq : (round.polled setup)[i]? = some q) :
    q.enabled = false ∧ q.healthy = true ↔ Round.Stranded ⟨c, w⟩ i := by
  obtain ⟨p, first, hp, hasked, hfirst, hlater⟩ := h.origin hnew hq
  rw [← Round.stranded_iff hp hasked hfirst, hlater.enabled]
  refine and_congr_right fun hdisabled => ?_
  rw [hlater.healthy hdisabled]

/-- An eligible sample of a peer that is still asked was returned in its round, and any other one in
the first round. -/
theorem RunRound.returned_of_eligible {setup : Bool} {round : Round}
    (hnew : ∀ p ∈ c.peers, p.IsNew) (h : RunRound c w setup round) {r : Reference}
    (hr : r ∈ Quorum.eligible (round.polled setup)) :
    if r.peer.enabled then round.Returned setup r.peerIndex r.sample
    else Round.Returned ⟨c, w⟩ true r.peerIndex r.sample := by
  obtain ⟨hq, hhealthy, hsample, -⟩ := Quorum.mem_eligible_iff.1 hr
  obtain ⟨p, first, hp, hasked, hfirst, hlater⟩ := h.origin hnew hq
  have hs : r.sample ∈ r.peer.samples := List.mem_of_getElem? hsample
  split
  · rename_i henabled
    cases h with
    | first => exact Round.returned_of_asked hp hq hasked hhealthy hs
    | later w' hsteady =>
      obtain ⟨before, w'', hbefore, -, hpolled⟩ := polledPeers_at hq
      have hbeforeAsked : before.enabled = true := by
        rw [← (Peer.Later.of_polled before _ w'').enabled]
        rw [hpolled] at henabled
        exact henabled
      exact Round.returned_of_asked hbefore hq hbeforeAsked hhealthy hs
  · rename_i henabled
    have hdisabled : first.enabled = false := by
      rw [← hlater.enabled]
      simpa using henabled
    rw [hlater.healthy hdisabled] at hhealthy
    rw [hlater.samples hdisabled] at hs
    exact Round.returned_of_asked hp hfirst hasked hhealthy hs

/-- All rounds of a run choose among fresh samples exactly if the first round strands no peer. After
every round the peers that are healthy without being asked are the stranded ones; the eligible
samples of all others were returned in the round itself, and those of the stranded ones in the
first. -/
theorem fresh_iff_none_stranded (h : Started c) (w : World) :
    ((∀ setup round, RunRound c w setup round → round.Fresh setup) ↔
        ∀ i, ¬ Round.Stranded ⟨c, w⟩ i) ∧
      ∀ setup round, RunRound c w setup round →
        (∀ i q, (round.polled setup)[i]? = some q →
          (q.enabled = false ∧ q.healthy = true ↔ Round.Stranded ⟨c, w⟩ i)) ∧
        ∀ r ∈ Quorum.eligible (round.polled setup),
          if r.peer.enabled then round.Returned setup r.peerIndex r.sample
          else Round.Returned ⟨c, w⟩ true r.peerIndex r.sample := by
  have hnew := h.isNew
  refine ⟨⟨?_, ?_⟩, ?_⟩
  · intro hfresh i hstranded
    obtain ⟨own, hown, -⟩ := id hstranded
    have hi : i < c.peers.length := by
      obtain ⟨hi, -⟩ := List.getElem?_eq_some_iff.1 hown
      simpa [Round.outcomes, length_roundOutcomes] using hi
    have hp : (Round.mk c w).controller.peers[i]? = some c.peers[i] := List.getElem?_eq_getElem hi
    exact Round.not_fresh_of_stranded hp (hnew _ (List.mem_of_getElem? hp)).enabled hstranded
      (hfresh true ⟨c, w⟩ .first)
  · intro hnone setup round hround r hr
    obtain ⟨hq, hhealthy, -⟩ := Quorum.mem_eligible_iff.1 hr
    have hreturned := hround.returned_of_eligible hnew hr
    cases henabled : r.peer.enabled with
    | true =>
      rw [if_pos henabled] at hreturned
      exact ⟨rfl, hreturned⟩
    | false =>
      exact absurd ((hround.healthy_disabled_iff hnew hq).1 ⟨henabled, hhealthy⟩) (hnone _)
  · intro setup round hround
    exact ⟨fun i q hq => hround.healthy_disabled_iff hnew hq,
      fun r hr => hround.returned_of_eligible hnew hr⟩

/-- A configuration of two peers that are asked twice, and of whose samples one is enough. -/
def twoPeers : Config :=
  { peers := .list [.text "a", .text "b"], maxSamples := .int 2, goodFilter := .int 1 }

/-- A world in which the first peer answers once before its route is lost, and the other one never
answers. -/
def routeLost : World :=
  { names := [("a", .addresses ["192.0.2.1"]), ("b", .addresses ["192.0.2.2"])]
    network := [("192.0.2.1", { items := [
      .sample ⟨.ofDecimal false 5 (-1), 2, 0, .zero, .zero, .zero, 0, .zero⟩,
      .system ⟨some 101, some "Network is unreachable"⟩] })] }

/-- The controller of the two peers, which were just found. -/
def twoPeersStarted : Controller := (start? twoPeers false routeLost).get (by decide +kernel)

/-- The two peers were just found. -/
theorem started_twoPeers : Started twoPeersStarted :=
  started_of_start? (Option.some_get _).symm

/-- A lost route strands the first peer, so the run does not choose among fresh samples only. -/
theorem not_fresh_of_routeLost : Started twoPeersStarted ∧
    ¬ ∀ setup round, RunRound twoPeersStarted routeLost setup round → round.Fresh setup := by
  refine ⟨started_twoPeers, fun hfresh => ?_⟩
  refine (fresh_iff_none_stranded started_twoPeers routeLost).1.1 hfresh 0 ?_
  have hown : (Round.outcomes ⟨twoPeersStarted, routeLost⟩ true)[0]? = some [
      .sample ⟨.ofDecimal false 5 (-1), 2, 0, .zero, .zero, .zero, 0, .zero⟩,
      .system ⟨some 101, some "Network is unreachable"⟩] := by decide +kernel
  exact ⟨_, hown, by decide, by rfl⟩

/-- The second round of the two peers. -/
def secondRound : Round :=
  ⟨(twoPeersStarted.firstSync routeLost).2.1, (twoPeersStarted.firstSync routeLost).2.2⟩

/-- In the second round nothing is asked of the first peer, and its old sample is chosen. -/
theorem stale_in_secondRound : RunRound twoPeersStarted routeLost false secondRound ∧
    ∃ r, Quorum.choose (secondRound.polled false) secondRound.controller.quorum = some r ∧
      r.peer.enabled = false ∧ r.peer.healthy = true ∧
      ¬ secondRound.Returned false r.peerIndex r.sample := by
  refine ⟨.later _ .start, ?_⟩
  have hchosen : (Quorum.choose (secondRound.polled false) secondRound.controller.quorum).map
      (fun r => (r.peer.enabled, r.peer.healthy, r.peerIndex)) = some (false, true, 0) := by
    decide +kernel
  obtain ⟨r, hr, hstate⟩ := Option.map_eq_some_iff.1 hchosen
  obtain ⟨hdisabled, hhealthy, hplace⟩ := by simpa using hstate
  refine ⟨r, hr, hdisabled, hhealthy, ?_⟩
  have hnothing : (secondRound.outcomes false)[0]? = some [] := by decide +kernel
  rintro ⟨own, hown, hs⟩
  rw [hplace, hnothing] at hown
  cases hown
  cases hs

end Controller

end Concord
