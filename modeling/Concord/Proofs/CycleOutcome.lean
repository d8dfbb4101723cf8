import Concord.Proofs.Runs

/-!
# What a cycle leaves behind

A cycle changes many parts of the controller one after the other, and the clock may refuse its
correction in the middle. Still the parts stay together. Either the cycle keeps all that is known,
served and measured of the last reference, and the trust in the peers (`Controller.Keeps`), or it
replaces all of it by what its own reference says (`Controller.Reflects`). The ways in which it does
so are those of `Controller.CycleOutcome`. One of them is a fault after the correction of the clock,
which needs a bound of the trust levels that is no whole number.

The main statement is `cycle_outcome_and_reflects`: every cycle ends in one of these ways, so after
a first correction the controller always reflects the reference of the last round that had one.
-/

namespace Concord

/-! ## Published values -/

/-- The standard waits fit the field for them. -/
theorem pollExponent_of_standard {wait : Binary64} (h : wait ∈ standardWaits) :
    ∃ exponent, pollExponent wait = .ok exponent := by
  have hall : ∀ x ∈ standardWaits, (pollExponent x).isOk = true := by decide +kernel
  exact exists_of_isOk (hall wait h)

/-- A text that is an address has a reference identifier. -/
theorem referenceId_of_readHost? {address : String}
    (h : (Address.readHost? address).isSome = true) : ∃ id, referenceId address = .ok id := by
  obtain ⟨a, ha⟩ := Option.isSome_iff_exists.1 h
  exact ⟨a.referenceId, by rw [referenceId, ha]⟩

/-- A template is made when the wait fits its field and the source has an address. -/
theorem Template.fromReference_eq (r : Reference) (dispersion now : Binary64) {wait : Binary64}
    (hwait : wait ∈ standardWaits) (haddress : (Address.readHost? r.peer.address).isSome = true) :
    ∃ t, fromReference r wait dispersion now = .ok t := by
  obtain ⟨exponent, hexponent⟩ := pollExponent_of_standard hwait
  obtain ⟨id, hid⟩ := referenceId_of_readHost? haddress
  unfold fromReference ofSample
  rw [hexponent, hid]
  exact ⟨_, rfl⟩

namespace Controller

/-- The samples of a peer against which nothing is said have a deviation, if they are several. -/
theorem dispersionOf_of_judge {p : Peer} {limit : Document}
    (h : judge p.offsets limit = .ok none) : ∃ dispersion, dispersionOf p = .ok dispersion := by
  cases hoffsets : p.offsets with
  | nil =>
    rw [hoffsets] at h
    cases h
  | cons x rest =>
    cases rest with
    | nil => exact ⟨.zero, by rw [dispersionOf, hoffsets]⟩
    | cons y rest =>
      rw [hoffsets] at h
      cases hdeviation : deviation? (x :: y :: rest) with
      | none =>
        simp only [judge, hdeviation] at h
        cases h
      | some deviation => exact ⟨deviation, by simp only [dispersionOf, hoffsets, hdeviation]⟩

/-! ## What is known of a reference -/

/-- What the controller knows, serves and measures is what one reference says, published at the
given time with the given wait. -/
structure Reflects (d : Controller) (r : Reference) (wait now : Binary64) : Prop where
  offset : d.offset = some r.offset
  delay : d.delay = r.sample.delay
  dispersion : dispersionOf r.peer = .ok d.dispersion
  lastSync : d.lastSync = some now
  template : Template.fromReference r wait d.dispersion now = .ok d.template
  gauges : ∀ g, d.gauges = some g → g = ⟨wait, r.sample.delay, r.offset, d.dispersion⟩

/-- What the controller knows, serves and measures is as before, and so is all trust. -/
structure Keeps (c d : Controller) : Prop where
  offset : d.offset = c.offset
  delay : d.delay = c.delay
  dispersion : d.dispersion = c.dispersion
  lastSync : d.lastSync = c.lastSync
  template : d.template = c.template
  gauges : d.gauges = c.gauges
  trust : d.peers.map (·.trust) = c.peers.map (·.trust)

/-- A controller that keeps what it knows still reflects the same reference. -/
theorem Reflects.of_keeps {c d : Controller} {r : Reference} {wait now : Binary64}
    (h : c.Reflects r wait now) (hkeeps : c.Keeps d) : d.Reflects r wait now := by
  refine ⟨hkeeps.offset.trans h.offset, hkeeps.delay.trans h.delay, ?_,
    hkeeps.lastSync.trans h.lastSync, ?_, ?_⟩
  · rw [hkeeps.dispersion]
    exact h.dispersion
  · rw [hkeeps.dispersion, hkeeps.template]
    exact h.template
  · intro g hg
    rw [hkeeps.dispersion]
    exact h.gauges g (hkeeps.gauges.symm.trans hg)

/-- What is published without a fault is all of one reference, and leaves the gauges collected. -/
theorem reflects_of_publish {c d : Controller} {r : Reference} {w : World}
    (h : c.publish r w = (none, d)) :
    d.Reflects r c.sleep w.now ∧ d.gauges.isSome = c.gauges.isSome := by
  cases hdispersion : dispersionOf r.peer with
  | error fault =>
    simp only [publish, record, hdispersion] at h
    cases h
  | ok dispersion =>
    cases htemplate : Template.fromReference r c.sleep dispersion w.now with
    | error fault =>
      simp only [publish, record, hdispersion, htemplate] at h
      cases h
    | ok template =>
      rw [publish_eq c r w hdispersion htemplate] at h
      cases h
      refine ⟨⟨rfl, rfl, hdispersion, rfl, htemplate, ?_⟩, Option.isSome_map ..⟩
      intro g hg
      obtain ⟨_, _, rfl⟩ := Option.map_eq_some_iff.1 hg
      rfl

/-! ## Addresses -/

/-- The addresses of all peers are addresses, possibly with a zone. -/
def LiteralAddresses (c : Controller) : Prop :=
  ∀ p ∈ c.peers, (Address.readHost? p.address).isSome = true

/-- Polling keeps it that the addresses of all peers are addresses. -/
theorem literal_polledPeers {c : Controller} (h : c.LiteralAddresses) (setup : Bool) (w : World) :
    ∀ p ∈ c.polledPeers setup w, (Address.readHost? p.address).isSome = true := by
  intro p hp
  have hmem : p.address ∈ (c.polledPeers setup w).map (·.address) := List.mem_map_of_mem hp
  rw [map_polledPeers (·.address) (fun _ _ _ _ => Peer.address_polled)] at hmem
  obtain ⟨q, hq, haddress⟩ := List.mem_map.1 hmem
  rw [← haddress]
  exact h q hq

/-- Later rounds keep it that the addresses of all peers are addresses. -/
theorem literal_of_steady {start d : Controller} {rounds : List Round}
    (h : Steady start rounds d) (hstart : start.LiteralAddresses) : d.LiteralAddresses := by
  induction h with
  | start => exact hstart
  | pass _ hpass ih =>
    obtain ⟨_, _, _, _, rfl⟩ := hpass.frame
    exact ih
  | @cycle rounds c w _ ih =>
    obtain ⟨f, _, _, _, _, _, _, _, _, hf, heq⟩ := c.cycle_frame w
    rw [heq]
    intro p hp
    obtain ⟨q, hq, rfl⟩ := List.mem_map.1 hp
    obtain ⟨trust, htrust⟩ := hf q
    rw [htrust]
    exact literal_polledPeers ih false w q hq

/-! ## The ways in which a cycle ends -/

/-- The ways in which a cycle ends: its result and the controller that it leaves. -/
inductive CycleOutcome (c : Controller) (w : World) :
    Except Trouble (Option Reference) → Controller → Prop where
  /-- There is no reference. Only the wait is another one. -/
  | noReference {d : Controller} :
      Quorum.choose (c.polledPeers false w) c.quorum = none →
      d.sleep = .ofInt 10 → d.clock = c.clock → c.Keeps d → CycleOutcome c w (.ok none) d
  /-- The correction of the clock is refused or fails. Nothing is another one. -/
  | refused {r : Reference} {d : Controller} (reason : String) :
      Quorum.choose (c.polledPeers false w) c.quorum = some r →
      d.sleep = c.sleep → c.Keeps d →
      CycleOutcome c w (.error (.failure (.clockWrite r.offset reason))) d
  /-- The clock is corrected, and all that is known, served and measured is replaced. -/
  | published {r : Reference} {d : Controller} (now : Binary64) :
      Quorum.choose (c.polledPeers false w) c.quorum = some r →
      c.pace.next (c.polledPeers false w) (some r) = .ok (d.sleep, d.peers) →
      d.Reflects r d.sleep now → d.gauges.isSome = c.gauges.isSome →
      d.clock.corrections = c.clock.corrections + 1 → CycleOutcome c w (.ok (some r)) d
  /-- The clock is corrected, but a bound of the trust levels that is no whole number has no place
  in the table of waits. -/
  | noWait {r : Reference} {d : Controller} {x : Binary64} :
      Quorum.choose (c.polledPeers false w) c.quorum = some r →
      c.pace.clamp r.peer.trust = .real x → c.pace.minPoll = .real x ∨ c.pace.maxPoll = .real x →
      d.sleep = c.sleep → c.Keeps d → d.clock.corrections = c.clock.corrections + 1 →
      CycleOutcome c w (.error (.fault (.notWhole (.real x)))) d

/-- A cycle with the standard pace ends in one of these ways, when nothing is said against the
samples of the peers that it does not ask. -/
theorem cycle_outcome {c : Controller} (hpace : StandardPace c.pace)
    (haddresses : c.LiteralAddresses) (hrest : c.JudgedAtRest) (w : World) :
    CycleOutcome c w (c.cycle w).1 (c.cycle w).2.1 := by
  have hjudged := judged_polledPeers hrest false w
  have hliteral := literal_polledPeers haddresses false w
  have htrust := c.trust_polledPeers false w
  -- A reference with a wait of the table can always be published.
  have hpublish : ∀ {r : Reference} {wait : Binary64} {trusted : List Peer} {e : Controller}
      {w' : World} {fault : Fault} {d : Controller},
      Quorum.choose (c.polledPeers false w) c.quorum = some r →
      c.pace.next (c.polledPeers false w) (some r) = .ok (wait, trusted) →
      e.publish r w' = (some fault, d) → e.sleep ≠ wait := by
    intro r wait trusted e w' fault d hchoose hnext hfails hsleep
    obtain ⟨hplace, hhealthy, -⟩ :=
      Quorum.mem_eligible_iff.1 (Quorum.mem_eligible_of_choose hchoose)
    have hmem : r.peer ∈ c.polledPeers false w := List.mem_of_getElem? hplace
    obtain ⟨dispersion, hdispersion⟩ := dispersionOf_of_judge (hjudged r.peer hmem hhealthy)
    have hstandard : e.sleep ∈ standardWaits := by
      rw [hsleep, ← hpace.waits]
      exact Pace.mem_waits_of_next hnext
    obtain ⟨template, htemplate⟩ :=
      Template.fromReference_eq r dispersion w'.now hstandard (hliteral r.peer hmem)
    rw [publish_eq e r w' hdispersion htemplate] at hfails
    cases hfails
  have hend := c.cycle_end w
  generalize (c.cycle w).1 = result at hend ⊢
  generalize (c.cycle w).2.1 = d at hend ⊢
  cases hend with
  | noReference hchoose =>
    refine .noReference hchoose ?_ rfl ⟨rfl, rfl, rfl, rfl, rfl, rfl, htrust⟩
    exact hpace.retryWait
  | refused reason pendingLeap hchoose =>
    exact .refused reason hchoose rfl ⟨rfl, rfl, rfl, rfl, rfl, rfl, htrust⟩
  | noWait hchoose hnext =>
    obtain ⟨x, rfl, hclamp⟩ := Pace.fault_of_next hnext
    exact .noWait hchoose hclamp (Pace.bound_of_clamp hclamp) rfl
      ⟨rfl, rfl, rfl, rfl, rfl, rfl, htrust⟩ rfl
  | unpublished hchoose hnext hfails =>
    exact absurd rfl (hpublish hchoose hnext hfails)
  | published hchoose hnext hdone =>
    obtain ⟨hreflects, hgauges⟩ := reflects_of_publish hdone
    obtain ⟨_, _, _, _, _, _, rfl⟩ := publish_frame hdone
    exact .published _ hchoose hnext hreflects hgauges rfl

/-- In every run a cycle ends in one of these ways. -/
theorem cycle_outcome_of_reachable {c : Controller} (h : Reachable c)
    (haddresses : c.LiteralAddresses) (w : World) :
    CycleOutcome c w (c.cycle w).1 (c.cycle w).2.1 :=
  cycle_outcome (standardPace_of_reachable h) haddresses (judgedAtRest_of_reachable h) w

/-! ## The reference that the controller reflects -/

/-- The last reference of a run: that of the last round that had one. -/
def lastReference (first : Reference) (rounds : List Round) : Reference :=
  rounds.foldl (fun r round =>
    match round.result with
    | .ok (some r') => r'
    | _ => r) first

/-- One more round counts when it has a reference. -/
theorem lastReference_append (first : Reference) (rounds : List Round) (round : Round) :
    lastReference first (rounds ++ [round]) =
      match round.result with
      | .ok (some r) => r
      | _ => lastReference first rounds := by
  rw [lastReference, List.foldl_append]
  rfl

/-- After a first correction the controller always reflects the last reference. -/
theorem reflects_of_steady {c d : Controller} {w : World} {r : Reference} {rounds : List Round}
    (h : Reachable c) (haddresses : c.LiteralAddresses) (hfirst : (c.firstSync w).1 = .ok r)
    (hsteady : Steady (c.firstSync w).2.1 rounds d) :
    ∃ wait now, d.Reflects (lastReference r rounds) wait now := by
  have hliteral : (c.firstSync w).2.1.LiteralAddresses := by
    obtain ⟨_, _, _, _, _, _, _, heq⟩ := c.firstSync_frame w
    rw [heq]
    exact literal_polledPeers haddresses true w
  induction hsteady with
  | start =>
    have hend := c.firstSync_end w
    rw [hfirst] at hend
    generalize (c.firstSync w).2.1 = d at hend
    cases hend with
    | published _ hdone => exact ⟨_, _, (reflects_of_publish hdone).1⟩
  | pass _ hpass ih =>
    obtain ⟨wait, now, hreflects⟩ := ih
    obtain ⟨_, _, _, _, rfl⟩ := hpass.frame
    exact ⟨wait, now, hreflects.of_keeps ⟨rfl, rfl, rfl, rfl, rfl, rfl, rfl⟩⟩
  | @cycle rounds e w' hbefore ih =>
    -- A round without a correction keeps the reference, and any other one replaces it.
    obtain ⟨wait, now, hreflects⟩ := ih
    have houtcome := cycle_outcome_of_reachable (hbefore.reachable (h.firstSync w))
      (literal_of_steady hbefore hliteral) w'
    rw [lastReference_append, Round.result]
    generalize (e.cycle w').1 = result at houtcome ⊢
    generalize (e.cycle w').2.1 = d at houtcome ⊢
    cases houtcome with
    | noReference _ _ _ hkeeps | refused _ _ _ hkeeps | noWait _ _ _ _ hkeeps _ =>
      exact ⟨wait, now, hreflects.of_keeps hkeeps⟩
    | published now' _ _ hreflects' _ _ => exact ⟨_, now', hreflects'⟩

/-- Every cycle is counted and ends in one of the ways of `CycleOutcome`. After a first correction
the controller therefore always reflects one reference, the last one. -/
theorem cycle_outcome_and_reflects {c : Controller} (h : Reachable c)
    (haddresses : c.LiteralAddresses) :
    (∀ w, (c.cycle w).2.1.cycles = c.cycles + 1 ∧
      CycleOutcome c w (c.cycle w).1 (c.cycle w).2.1) ∧
    ∀ w r rounds d, (c.firstSync w).1 = .ok r → Steady (c.firstSync w).2.1 rounds d →
      ∃ wait now, d.Reflects (lastReference r rounds) wait now :=
  ⟨fun w => ⟨c.cycles_cycle w, cycle_outcome_of_reachable h haddresses w⟩,
    fun _ _ _ _ hfirst hsteady => reflects_of_steady h haddresses hfirst hsteady⟩

/-- The controller of one peer ends its cycle in one of the ways, and its first correction leaves it
with what the server says. -/
theorem outcome_of_oneServer :
    CycleOutcome onePeerStarted oneServer (onePeerStarted.cycle oneServer).1
        (onePeerStarted.cycle oneServer).2.1 ∧
      ∃ r wait now, (onePeerStarted.firstSync oneServer).1 = .ok r ∧
        (onePeerStarted.firstSync oneServer).2.1.Reflects r wait now := by
  have hreachable : Reachable onePeerStarted :=
    (started_of_start? onePeerStarted_eq).reachable
  have haddresses : onePeerStarted.LiteralAddresses := by
    show ∀ p ∈ onePeerStarted.peers, _
    decide +kernel
  obtain ⟨hcycle, hsteady⟩ := cycle_outcome_and_reflects hreachable haddresses
  refine ⟨(hcycle oneServer).2, ?_⟩
  have hok : (onePeerStarted.firstSync oneServer).1.isOk = true := by decide +kernel
  obtain ⟨r, hfirst⟩ := exists_of_isOk hok
  obtain ⟨wait, now, hreflects⟩ := hsteady oneServer r [] _ hfirst .start
  exact ⟨r, wait, now, hfirst, hreflects⟩

/-- The controller of one peer with a lower bound of one and a half after it found the server. -/
def fractionalStarted : Controller :=
  (start? (onePeer (.real (.ofDecimal false 15 (-1)))) false oneServer).get (by decide +kernel)

/-- This controller after its first correction, and the world in which it is. -/
def fractionalSynced : Controller × World := (fractionalStarted.firstSync oneServer).2

/-- This controller can come about. -/
theorem reachable_fractionalSynced : Reachable fractionalSynced.1 := by
  have hstarted : Started fractionalStarted := started_of_start? (Option.some_get _).symm
  rw [fractionalSynced]
  exact hstarted.reachable.firstSync oneServer

/-- Its peer is at an address. -/
theorem literal_fractionalSynced : fractionalSynced.1.LiteralAddresses := by
  show ∀ p ∈ fractionalSynced.1.peers, _
  decide +kernel

/-- With a lower bound that is no whole number a cycle can end in a fault after the correction of
the clock. -/
theorem fault_of_fractionalBound :
    Reachable fractionalSynced.1 ∧ fractionalSynced.1.LiteralAddresses ∧
      (∃ fault, (fractionalSynced.1.cycle fractionalSynced.2).1 = .error (.fault fault)) ∧
      (fractionalSynced.1.cycle fractionalSynced.2).2.1.clock.corrections =
        fractionalSynced.1.clock.corrections + 1 := by
  refine ⟨reachable_fractionalSynced, literal_fractionalSynced, ?_, by decide +kernel⟩
  have hfault : (match (fractionalSynced.1.cycle fractionalSynced.2).1 with
      | .error (.fault _) => true
      | _ => false) = true := by decide +kernel
  split at hfault
  · rename_i fault hresult
    exact ⟨fault, hresult⟩
  · cases hfault

end Controller

end Concord
