import Concord.Controller.Run
import Concord.Proofs.PaceStep
import Concord.Proofs.RoundStep

/-!
# Runs of the controller

A controller is made of a configuration, finds its peers, has a first round and then later ones.
Between its rounds it serves, is stopped, and so on (`Controller.Pass`), and the world may become
another one altogether: each step meets a world of its own.

`Controller.Steady` collects the later rounds of a run, and `Controller.Reachable` says which
controllers can come about at all, the steps taken in whatever order. The main statements are
`judged_of_reachable`, that nothing is ever said against the samples of a healthy peer, and
`cycle_frame`, that of the peers that its polling leaves a later round changes the trust in them and
nothing else.
-/

namespace Concord

/-! ## New peers -/

/-- The peer was just found: it is asked, it is trusted least, and nothing is known of it. -/
structure Peer.IsNew (p : Peer) : Prop where
  enabled : p.enabled = true
  healthy : p.healthy = false
  trust : p.trust = lowestTrust
  samples : p.samples = []

section

variable {P : Peer → Prop} {directory : Directory} {defaults : PeerDefaults}
  (hmade : ∀ origin address p, directory.peer defaults origin address = .ok p → P p)

include hmade

/-- One more address adds at most a peer that is made of it. -/
theorem Discovery.forall_accept {d : Discovery} (origin address : String) (w : World)
    (h : ∀ p ∈ d.peers, P p) :
    ∀ p ∈ (d.accept directory defaults origin address w).1.peers, P p := by
  simp only [accept]
  split
  · exact h
  · split
    · exact h
    · rename_i made hpeer
      intro p hp
      obtain hp | hp := List.mem_append.1 hp
      · exact h p hp
      · obtain rfl := List.mem_singleton.1 hp
        exact hmade origin address p hpeer

/-- More addresses add only peers that are made of them. -/
theorem Discovery.forall_acceptAll (candidates : List (String × String)) {d : Discovery}
    (w : World) (h : ∀ p ∈ d.peers, P p) :
    ∀ p ∈ (acceptAll directory defaults candidates d w).1.peers, P p := by
  induction candidates generalizing d w with
  | nil => exact h
  | cons candidate rest ih => exact ih _ (forall_accept hmade candidate.1 candidate.2 w h)

/-- The peers found are made of addresses. -/
theorem forall_of_discover {names : List Document} {w w' : World} {found : Discovery}
    (h : discover names defaults w directory = (.ok found, w')) : ∀ p ∈ found.peers, P p := by
  unfold discover at h
  split at h
  · cases h
  · cases h
    exact Discovery.forall_acceptAll hmade _ _ (by simp)

end

/-- A round of a run: the controller before it and the world that it met. -/
structure Round where
  controller : Controller
  world : World

namespace Round

/-- The peers after the polling of a round. -/
def polled (round : Round) (setup : Bool) : List Peer :=
  round.controller.polledPeers setup round.world

/-- The result of a later round. -/
def result (round : Round) : Except Trouble (Option Reference) :=
  (round.controller.cycle round.world).1

end Round

namespace Controller

/-- What holds of every peer made of an address holds of those found in a configuration. -/
theorem forall_of_findPeers {P : Peer → Prop} {c : Controller} {w w' : World} {peers : List Peer}
    (hmade : ∀ origin address, P { origin, address, timeout := c.config.queryTimeout
                                   maxSamples := c.requests })
    (h : c.findPeers w = (.ok peers, w')) : ∀ p ∈ peers, P p := by
  unfold findPeers at h
  split at h
  · cases h
  · rename_i names _
    rcases hfound : discover names ⟨c.config.queryTimeout, c.requests⟩ w with ⟨result, w''⟩
    rw [hfound] at h
    cases result with
    | error fault => cases h
    | ok found =>
      cases h
      refine forall_of_discover ?_ hfound
      intro origin address p hp
      rw [World.newPeer_eq_ok hp]
      exact hmade origin address

/-- The peers found in a configuration are new. -/
theorem isNew_of_findPeers {c : Controller} {w w' : World} {peers : List Peer}
    (h : c.findPeers w = (.ok peers, w')) : ∀ p ∈ peers, p.IsNew :=
  forall_of_findPeers (fun _ _ => ⟨rfl, rfl, rfl, rfl⟩) h

/-! ## Steps -/

/-- The pace has the table and the limits that it is made with, and the bounds are numbers. -/
theorem pace_of_make {minPoll maxPoll : Document} {waits : List Binary64}
    {stableOffset retryWait : Binary64} {pace : Pace}
    (h : Pace.make? minPoll maxPoll waits stableOffset retryWait = .ok pace) :
    pace.waits = waits ∧ pace.stableOffset = stableOffset ∧ pace.retryWait = retryWait ∧
      minPoll.number? = some pace.minPoll ∧ maxPoll.number? = some pace.maxPoll := by
  unfold Pace.make? Document.numberFor at h
  cases hlow : minPoll.number? with
  | none =>
    rw [hlow] at h
    cases h
  | some low =>
    cases hhigh : maxPoll.number? with
    | none =>
      rw [hlow, hhigh] at h
      cases h
    | some high =>
      rw [hlow, hhigh] at h
      simp only at h
      split at h
      · split at h
        · cases h
          exact ⟨rfl, rfl, rfl, rfl, rfl⟩
        · cases h
      · cases h

/-- A new controller has its configuration clamped, no peers, and the standard pace. -/
theorem of_make {config : Config} {collected : Bool} {c : Controller}
    (h : make? config collected = .ok c) :
    config.clamp = .ok c.config ∧ Pace.make? c.config.minPoll c.config.maxPoll standardWaits
        Pace.standardStable Pace.standardRetry = .ok c.pace ∧
      c.peers = [] ∧ c.sleep = c.pace.shortestWait := by
  unfold make? at h
  obtain ⟨clamped, hclamp, h⟩ := bind_eq_ok.1 h
  obtain ⟨pace, hpace, h⟩ := bind_eq_ok.1 h
  obtain ⟨requests, -, h⟩ := bind_eq_ok.1 h
  obtain ⟨quorum, -, h⟩ := bind_eq_ok.1 h
  cases h
  exact ⟨mapError_eq_ok.1 hclamp, hpace, rfl, rfl⟩

/-- Looking for the peers replaces them by new ones, or fails and leaves those that there were or
none. -/
theorem init_end (c : Controller) (w : World) :
    (∃ peers w', c.init w = (.ok (),
        { c with phase := .initializing, peers, sleep := c.pace.shortestWait }, w') ∧
      ∀ p ∈ peers, p.IsNew) ∨
    (∃ trouble w', c.init w = (.error trouble, { c with phase := .initializing }, w')) ∨
      ∃ trouble w', c.init w =
        (.error trouble, { c with phase := .initializing, peers := [] }, w') := by
  have hfind : { c with phase := .initializing }.findPeers w = c.findPeers w := rfl
  rcases hrun : c.findPeers w with ⟨result, w'⟩
  unfold init
  simp only [hfind, hrun]
  cases result with
  | error fault => exact .inr (.inl ⟨_, _, rfl⟩)
  | ok peers =>
    cases peers with
    | nil => exact .inr (.inr ⟨_, _, rfl⟩)
    | cons p rest => exact .inl ⟨p :: rest, _, rfl, isNew_of_findPeers hrun⟩

/-- Peers that were found are new, and the wait begins anew. -/
theorem init_ok {c d : Controller} {w w' : World} (h : c.init w = (.ok (), d, w')) :
    ∃ peers, d = { c with phase := .initializing, peers, sleep := c.pace.shortestWait } ∧
      ∀ p ∈ peers, p.IsNew := by
  obtain ⟨peers, _, heq, hnew⟩ | ⟨_, _, heq⟩ | ⟨_, _, heq⟩ := c.init_end w
  · rw [h] at heq
    cases heq
    exact ⟨peers, rfl, hnew⟩
  · rw [h] at heq
    cases heq
  · rw [h] at heq
    cases heq

/-- What can happen between two rounds. -/
inductive Pass (c : Controller) : Controller → Prop where
  | serve (w : World) : Pass c (c.startServing w).2.1
  | receive (datagram : Datagram) (w : World) : Pass c (c.receive datagram w).2.1
  | stop (w : World) : Pass c (c.stop w).1
  | stopServing (w : World) : Pass c (c.stopServing w).1
  | enter (phase : Phase) : Pass c { c with phase }

/-- Starting the responder touches nothing else. -/
theorem startResponder_frame (c : Controller) (w : World) :
    ∃ responder, (c.startResponder w).2.1 = { c with responder } := by
  unfold startResponder
  split
  · split <;> exact ⟨_, rfl⟩
  · exact ⟨_, rfl⟩

/-- Starting the status server touches nothing else. -/
theorem startStatusServer_frame (c : Controller) (w : World) :
    ∃ statusServer, (c.startStatusServer w).2.1 = { c with statusServer } := by
  unfold startStatusServer
  split
  · split <;> exact ⟨_, rfl⟩
  · exact ⟨_, rfl⟩

/-- Stopping the responder touches nothing else. -/
theorem stopResponder_frame (c : Controller) (w : World) :
    ∃ responder, (c.stopResponder w).1 = { c with responder } := by
  unfold stopResponder
  split <;> exact ⟨_, rfl⟩

/-- Stopping the status server touches nothing else. -/
theorem stopStatusServer_frame (c : Controller) (w : World) :
    ∃ statusServer, (c.stopStatusServer w).1 = { c with statusServer } := by
  unfold stopStatusServer
  split <;> exact ⟨_, rfl⟩

/-- What happens between two rounds touches the servers and the daemon's own life only. -/
theorem Pass.frame {c d : Controller} (h : Pass c d) :
    ∃ responder statusServer stopping phase,
      d = { c with responder, statusServer, stopping, phase } := by
  cases h with
  | serve w =>
    obtain ⟨responder, hresponder⟩ := c.startResponder_frame w
    unfold startServing
    rcases hfirst : c.startResponder w with ⟨trouble, d, w'⟩
    rw [hfirst] at hresponder
    simp only at hresponder
    subst hresponder
    cases trouble with
    | some trouble => exact ⟨_, _, _, _, rfl⟩
    | none =>
      obtain ⟨statusServer, hstatus⟩ := { c with responder }.startStatusServer_frame w'
      rcases hsecond : { c with responder }.startStatusServer w' with ⟨trouble, e, w''⟩
      rw [hsecond] at hstatus
      simp only at hstatus
      subst hstatus
      cases trouble <;> simp only [hsecond] <;> exact ⟨_, _, _, _, rfl⟩
  | receive datagram w =>
    unfold Controller.receive
    split
    · split <;> exact ⟨_, _, _, _, rfl⟩
    · exact ⟨_, _, _, _, rfl⟩
  | stop w => exact ⟨_, _, _, _, rfl⟩
  | stopServing w =>
    obtain ⟨responder, hresponder⟩ := c.stopResponder_frame w
    obtain ⟨statusServer, hstatus⟩ :=
      (c.stopResponder w).1.stopStatusServer_frame (c.stopResponder w).2
    refine ⟨responder, statusServer, c.stopping, c.phase, ?_⟩
    show ((c.stopResponder w).1.stopStatusServer (c.stopResponder w).2).1 = _
    rw [hstatus, hresponder]
  | enter phase => exact ⟨_, _, _, _, rfl⟩

/-- A later round leaves the peers of its polling, but for the trust in them, and it leaves the
configuration and what is derived from it. -/
theorem cycle_frame (c : Controller) (w : World) :
    ∃ (f : Peer → Peer) (clock : Clock) (sleep delay dispersion : Binary64)
        (offset lastSync : Option Binary64) (template : Template) (gauges : Option Gauges),
      (∀ p, ∃ trust, f p = { p with trust }) ∧
      (c.cycle w).2.1 = { c with
        peers := (c.polledPeers false w).map f, cycles := c.cycles + 1
        clock, sleep, delay, dispersion, offset, lastSync, template, gauges } := by
  have hend := c.cycle_end w
  generalize (c.cycle w).1 = result at hend
  generalize (c.cycle w).2.1 = d at hend ⊢
  have hid : ∀ p : Peer, ∃ trust, id p = { p with trust } := fun p => ⟨p.trust, rfl⟩
  cases hend with
  | noReference _ => exact ⟨id, _, _, _, _, _, _, _, _, hid, by rw [List.map_id]⟩
  | refused reason pendingLeap _ => exact ⟨id, _, _, _, _, _, _, _, _, hid, by rw [List.map_id]⟩
  | noWait _ _ => exact ⟨id, _, _, _, _, _, _, _, _, hid, by rw [List.map_id]⟩
  | unpublished _ hnext hpublish | published _ hnext hpublish =>
    obtain rfl := Pace.trusted_of_next hnext
    obtain ⟨_, _, _, _, _, _, rfl⟩ := publish_frame hpublish
    exact ⟨_, _, _, _, _, _, _, _, _, c.pace.adjust_frame _, rfl⟩

/-- The first round leaves the peers of its polling, the wait, the configuration and what is derived
from it. -/
theorem firstSync_frame (c : Controller) (w : World) :
    ∃ (clock : Clock) (delay dispersion : Binary64) (offset lastSync : Option Binary64)
        (template : Template) (gauges : Option Gauges),
      (c.firstSync w).2.1 = { c with
        phase := .firstSync, peers := c.polledPeers true w
        clock, delay, dispersion, offset, lastSync, template, gauges } := by
  have hend := c.firstSync_end w
  generalize (c.firstSync w).1 = result at hend
  generalize (c.firstSync w).2.1 = d at hend ⊢
  cases hend with
  | noReference failure _ => exact ⟨_, _, _, _, _, _, _, rfl⟩
  | refused reason pendingLeap _ => exact ⟨_, _, _, _, _, _, _, rfl⟩
  | unpublished _ hpublish | published _ hpublish =>
    obtain ⟨_, _, _, _, _, _, rfl⟩ := publish_frame hpublish
    exact ⟨_, _, _, _, _, _, _, rfl⟩

/-! ## Runs -/

/-- The controller comes about from another one by later rounds, which are kept in order, and by
what happens between them. -/
inductive Steady (start : Controller) : List Round → Controller → Prop where
  | start : Steady start [] start
  | pass {rounds : List Round} {c d : Controller} :
      Steady start rounds c → Pass c d → Steady start rounds d
  | cycle {rounds : List Round} {c : Controller} (w : World) :
      Steady start rounds c → Steady start (rounds ++ [⟨c, w⟩]) (c.cycle w).2.1

/-- The controller has just found its peers. -/
def Started (c : Controller) : Prop :=
  ∃ config collected made w w',
    make? config collected = .ok made ∧ made.init w = (.ok (), c, w')

/-- The controller of a configuration that has found its peers in a world, if it finds them. -/
def start? (config : Config) (collected : Bool) (w : World) : Option Controller :=
  match make? config collected with
  | .error _ => none
  | .ok made =>
    match made.init w with
    | (.ok (), c, _) => some c
    | (.error _, _, _) => none

/-- What `start?` gives is what `init` leaves of a new controller. -/
theorem exists_of_start? {config : Config} {collected : Bool} {w : World} {c : Controller}
    (h : start? config collected w = some c) :
    ∃ made w', make? config collected = .ok made ∧ made.init w = (.ok (), c, w') := by
  unfold start? at h
  split at h
  · cases h
  · rename_i made hmade
    split at h
    · rename_i w' hinit
      cases h
      exact ⟨made, w', hmade, hinit⟩
    · cases h

/-- What `start?` gives has just found its peers. -/
theorem started_of_start? {config : Config} {collected : Bool} {w : World} {c : Controller}
    (h : start? config collected w = some c) : Started c := by
  obtain ⟨made, w', hmade, hinit⟩ := exists_of_start? h
  exact ⟨config, collected, made, w, w', hmade, hinit⟩

/-- A controller that has just found its peers has new ones. -/
theorem Started.isNew {c : Controller} (h : Started c) : ∀ p ∈ c.peers, p.IsNew := by
  obtain ⟨config, collected, made, w, w', -, hinit⟩ := h
  obtain ⟨peers, rfl, hnew⟩ := init_ok hinit
  exact hnew

/-- The controller can come about. -/
inductive Reachable : Controller → Prop where
  | made {config : Config} {collected : Bool} {c : Controller} :
      make? config collected = .ok c → Reachable c
  | init {c : Controller} (w : World) : Reachable c → Reachable (c.init w).2.1
  | firstSync {c : Controller} (w : World) : Reachable c → Reachable (c.firstSync w).2.1
  | cycle {c : Controller} (w : World) : Reachable c → Reachable (c.cycle w).2.1
  | pass {c d : Controller} : Reachable c → Pass c d → Reachable d

/-- A controller that has found its peers can come about. -/
theorem Started.reachable {c : Controller} (h : Started c) : Reachable c := by
  obtain ⟨config, collected, made, w, w', hmade, hinit⟩ := h
  have := (Reachable.made hmade).init w
  rwa [hinit] at this

/-- What comes about by later rounds can come about. -/
theorem Steady.reachable {start c : Controller} {rounds : List Round}
    (h : Steady start rounds c) (hstart : Reachable start) : Reachable c := by
  induction h with
  | start => exact hstart
  | pass _ hpass ih => exact ih.pass hpass
  | cycle w _ ih => exact ih.cycle w

/-! ## What holds in every run -/

section

variable {Q : Document → Peer → Prop}
  (hpolled : ∀ (p : Peer) (maxStd : Document) (setup : Bool) (w : World), Q maxStd p →
    Q maxStd (p.polled maxStd setup (p.outcomes setup w)))

include hpolled

/-- What polling keeps of each peer it keeps of all peers. -/
theorem forall_polledPeers {c : Controller} (h : ∀ p ∈ c.peers, Q c.config.maxStd p)
    (setup : Bool) (w : World) : ∀ q ∈ c.polledPeers setup w, Q c.config.maxStd q := by
  intro q hq
  obtain ⟨i, hi⟩ := List.mem_iff_getElem?.1 hq
  obtain ⟨p, w', hp, -, rfl⟩ := polledPeers_at hi
  exact hpolled p _ _ w' (h p (List.mem_of_getElem? hp))

/-- What holds of new peers and is kept by polling, and in which trust has no part, holds of all
peers in every run. -/
theorem forall_peers_of_reachable
    (hnew : ∀ (p : Peer) (maxStd : Document), p.IsNew → Q maxStd p)
    (htrust : ∀ (p : Peer) (maxStd : Document) (trust : Int), Q maxStd p →
      Q maxStd { p with trust })
    {c : Controller} (h : Reachable c) : ∀ p ∈ c.peers, Q c.config.maxStd p := by
  induction h with
  | made hmake =>
    intro p hp
    rw [(of_make hmake).2.2.1] at hp
    cases hp
  | @init c w _ ih =>
    obtain ⟨peers, w', heq, hpeers⟩ | ⟨trouble, w', heq⟩ | ⟨trouble, w', heq⟩ := c.init_end w
    · rw [heq]
      exact fun p hp => hnew p _ (hpeers p hp)
    · rw [heq]
      exact ih
    · rw [heq]
      intro p hp
      cases hp
  | @firstSync c w _ ih =>
    obtain ⟨_, _, _, _, _, _, _, heq⟩ := c.firstSync_frame w
    rw [heq]
    exact forall_polledPeers hpolled ih true w
  | @cycle c w _ ih =>
    -- Trust is all that a cycle changes of the polled peers.
    obtain ⟨f, _, _, _, _, _, _, _, _, hf, heq⟩ := c.cycle_frame w
    rw [heq]
    intro p hp
    obtain ⟨q, hq, rfl⟩ := List.mem_map.1 hp
    obtain ⟨trust, heq'⟩ := hf q
    rw [heq']
    exact htrust q _ trust (forall_polledPeers hpolled ih false w q hq)
  | pass _ hpass ih =>
    obtain ⟨_, _, _, _, rfl⟩ := hpass.frame
    exact ih

end

/-- Nothing is said against the samples of a healthy peer. -/
def Judged (c : Controller) : Prop :=
  ∀ p ∈ c.peers, p.healthy = true → judge p.offsets c.config.maxStd = .ok none

/-- Nothing is said against the samples of a healthy peer that is not asked any more. -/
def JudgedAtRest (c : Controller) : Prop :=
  ∀ p ∈ c.peers, p.enabled = false → p.healthy = true →
    judge p.offsets c.config.maxStd = .ok none

/-- After polling nothing is said against the samples of a healthy peer: it was asked and judged,
unless it is at rest. -/
theorem judged_polled (p : Peer) (maxStd : Document) (setup : Bool) (w : World)
    (h : p.enabled = false → p.healthy = true → judge p.offsets maxStd = .ok none)
    (hhealthy : (p.polled maxStd setup (p.outcomes setup w)).healthy = true) :
    judge (p.polled maxStd setup (p.outcomes setup w)).offsets maxStd = .ok none := by
  cases he : p.enabled with
  | false =>
    rw [Peer.polled_of_disabled he] at hhealthy ⊢
    exact h he hhealthy
  | true =>
    rw [Peer.offsets, Peer.samples_of_healthy p _ _ _ he hhealthy]
    exact ((Peer.healthy_polled_iff p _ _ _ he).1 hhealthy).2

/-- After polling nothing is said against the samples of healthy peers, whatever was said against
those of the peers that were asked. -/
theorem judged_polledPeers {c : Controller} (h : c.JudgedAtRest) (setup : Bool) (w : World) :
    ∀ q ∈ c.polledPeers setup w, q.healthy = true → judge q.offsets c.config.maxStd = .ok none := by
  intro q hq
  obtain ⟨i, hi⟩ := List.mem_iff_getElem?.1 hq
  obtain ⟨p, w', hp, -, rfl⟩ := polledPeers_at hi
  exact judged_polled p _ _ w' (h p (List.mem_of_getElem? hp))

/-- In every run nothing is said against the samples of a healthy peer. -/
theorem judged_of_reachable {c : Controller} (h : Reachable c) : c.Judged := by
  refine forall_peers_of_reachable (fun p maxStd setup w hp => judged_polled p maxStd setup w
    fun _ => hp) ?_ (fun p maxStd trust hp => hp) h
  intro p maxStd hnew hhealthy
  rw [hnew.healthy] at hhealthy
  cases hhealthy

/-- In every run nothing is said against the samples of a healthy peer at rest. -/
theorem judgedAtRest_of_reachable {c : Controller} (h : Reachable c) : c.JudgedAtRest :=
  fun p hp _ => judged_of_reachable h p hp

/-- In every run the samples of a peer are not rejected. -/
theorem accepted_of_reachable {c : Controller} (h : Reachable c) :
    ∀ p ∈ c.peers, p.Accepted := by
  refine forall_peers_of_reachable (fun p _ _ _ => p.accepted_polled _ _ _) ?_
    (fun p maxStd trust hp => hp) h
  intro p maxStd hnew s hs
  rw [hnew.samples] at hs
  cases hs

/-- The pace is the standard one. -/
structure StandardPace (pace : Pace) : Prop where
  waits : pace.waits = standardWaits
  stableOffset : pace.stableOffset = Pace.standardStable
  retryWait : pace.retryWait = Pace.standardRetry

/-- Every controller has the standard pace. -/
theorem standardPace_of_reachable {c : Controller} (h : Reachable c) : StandardPace c.pace := by
  induction h with
  | made hmake =>
    obtain ⟨hwaits, hstable, hretry, -⟩ := pace_of_make (of_make hmake).2.1
    exact ⟨hwaits, hstable, hretry⟩
  | @init c w _ ih =>
    obtain ⟨_, _, heq, -⟩ | ⟨_, _, heq⟩ | ⟨_, _, heq⟩ := c.init_end w <;> rw [heq] <;> exact ih
  | @firstSync c w _ ih =>
    obtain ⟨_, _, _, _, _, _, _, heq⟩ := c.firstSync_frame w
    rw [heq]
    exact ih
  | @cycle c w _ ih =>
    obtain ⟨_, _, _, _, _, _, _, _, _, -, heq⟩ := c.cycle_frame w
    rw [heq]
    exact ih
  | pass _ hpass ih =>
    obtain ⟨_, _, _, _, rfl⟩ := hpass.frame
    exact ih

/-! ## A small run -/

/-- A world of one server, which always answers with the same sample. -/
def oneServer : World :=
  { names := [("a", .addresses ["192.0.2.1"])]
    network := [("192.0.2.1",
      { default := .sample ⟨.ofDecimal false 1 (-3), 2, 0, .zero, .zero, .zero, 0, .zero⟩ })] }

/-- A configuration of one peer with the given lower bound of the trust levels. -/
def onePeer (minPoll : Document) : Config :=
  { peers := .list [.text "a"], maxSamples := .int 1, goodFilter := .int 1, minPoll }

/-- The controller of one peer after it found the server. -/
def onePeerStarted : Controller :=
  (start? (onePeer (.int 1)) false oneServer).get (by decide +kernel)

/-- The controller of one peer is what the configuration comes to. -/
theorem onePeerStarted_eq : start? (onePeer (.int 1)) false oneServer = some onePeerStarted :=
  (Option.some_get _).symm

end Controller

end Concord
