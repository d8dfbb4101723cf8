import Concord.Proofs.RunSafety

/-!
# Which peers are asked

The peers of a run are found once. From then on their list stays what it is, in its order, with
where each peer comes from and how it is asked (`Source`). Whether a peer is asked changes in the
first round only, and only from asked to not asked. So every later round asks exactly the peers that
the first one left enabled, in their order, as often as the configuration says, whatever came of
the rounds before. A peer is asked less often only if one of its own requests comes to a fault
(`requestsMade`).

The main statement is `frozen_of_make`.
-/

namespace Concord

/-- What stays of a peer from round to round: where it comes from, and how it is asked. -/
structure Source where
  origin : String
  address : String
  port : Int
  timeout : Document
  maxSamples : Number
deriving DecidableEq

/-- What stays of the peer. -/
def Peer.source (p : Peer) : Source := ⟨p.origin, p.address, p.port, p.timeout, p.maxSamples⟩

/-- The number of requests made when they come back with the given outcomes: one for each, but none
after the first that comes to a fault. -/
def requestsMade (outcomes : List Outcome) : Nat :=
  min outcomes.length (outcomes.findIdx (·.fault?.isSome) + 1)

/-- In a later round, a request is made for every outcome that is heard. -/
theorem length_heard (outcomes : List Outcome) :
    (heard false outcomes).length = requestsMade outcomes := by
  induction outcomes with
  | nil => rfl
  | cons o rest ih =>
    have hlast : o.isLast false = o.fault?.isSome := by
      rw [Outcome.isLast, not_cutsOff_false, Bool.false_or]
    rw [heard, List.length_cons, hlast, requestsMade, List.findIdx_cons]
    cases o.fault?.isSome with
    | true => simp
    | false => simp [ih, requestsMade]

/-- Fewer requests are made only if the last of them comes to a fault. -/
theorem fault_of_requestsMade_lt {outcomes : List Outcome}
    (h : requestsMade outcomes < outcomes.length) :
    ∃ f, outcomes[requestsMade outcomes - 1]? = some (.fault f) := by
  have hmade : requestsMade outcomes = outcomes.findIdx (·.fault?.isSome) + 1 := by
    unfold requestsMade at h ⊢
    omega
  have hlt : outcomes.findIdx (·.fault?.isSome) < outcomes.length := by omega
  have hfault := List.findIdx_getElem (w := hlt)
  rw [hmade, Nat.add_sub_cancel, List.getElem?_eq_getElem hlt]
  generalize outcomes[outcomes.findIdx (·.fault?.isSome)] = o at hfault ⊢
  cases o with
  | fault f => exact ⟨f, rfl⟩
  | sample | silence | protocol | system => cases hfault

/-- There are as many next outcomes as are asked for. -/
theorem Script.length_upcoming (n : Nat) (s : Script) : (s.upcoming n).length = n := by
  induction n generalizing s with
  | zero => rfl
  | succ n ih => rw [upcoming, List.length_cons, ih]

/-! ## The requests of a round -/

namespace Round

variable {round : Round} {setup : Bool}

/-- A round of peers at different addresses makes the requests of those that are enabled, each with
what the world before the round holds for its address. -/
theorem requests_eq (h : (round.controller.peers.map (·.address)).Nodup) :
    round.requests setup = (round.controller.peers.filter (·.enabled)).flatMap fun p =>
      p.queries (p.outcomes setup round.world) := by
  have houtcomes : round.outcomes setup = round.controller.peers.map fun p =>
      if p.enabled then p.outcomes setup round.world else [] := by
    refine List.ext_getElem? fun i => ?_
    rw [List.getElem?_map]
    cases hp : round.controller.peers[i]? with
    | none =>
      rw [Option.map_none, List.getElem?_eq_none_iff, outcomes, length_roundOutcomes]
      exact List.getElem?_eq_none_iff.1 hp
    | some p => exact roundOutcomes_of_alone _ setup _ (Peer.aloneAt_of_nodup h hp)
  rw [requests, houtcomes]
  clear houtcomes h
  induction round.controller.peers with
  | nil => rfl
  | cons p rest ih =>
    rw [List.map_cons, List.zipWith_cons_cons, List.flatten_cons, ih]
    cases he : p.enabled with
    | true => simp [he]
    | false => simp [he, Peer.queries]

/-- A round leaves the peers of its polling, but for the trust in them. -/
theorem exists_peers_ending (round : Round) (setup : Bool) :
    ∃ f : Peer → Peer, (∀ p, ∃ trust, f p = { p with trust }) ∧
      (round.ending setup).2.1.peers = (round.polled setup).map f := by
  cases setup with
  | true =>
    obtain ⟨_, _, _, _, _, _, _, heq⟩ := round.controller.firstSync_frame round.world
    refine ⟨id, fun p => ⟨p.trust, rfl⟩, ?_⟩
    simp only [ending, if_true, heq, List.map_id]
    rfl
  | false =>
    obtain ⟨f, _, _, _, _, _, _, _, _, hf, heq⟩ := round.controller.cycle_frame round.world
    refine ⟨f, hf, ?_⟩
    simp only [ending, Bool.false_eq_true, if_false, heq]
    rfl

/-- A round keeps where its peers come from and how they are asked. -/
theorem sources_ending (round : Round) (setup : Bool) :
    (round.ending setup).2.1.peers.map Peer.source = round.controller.peers.map Peer.source := by
  obtain ⟨f, hf, heq⟩ := round.exists_peers_ending setup
  have hpolled : (round.polled setup).map Peer.source = round.controller.peers.map Peer.source := by
    refine Controller.map_polledPeers Peer.source ?_ _ _ _
    intro p maxStd setup outcomes
    obtain ⟨_, _, _, _, hframe⟩ := p.polled_frame maxStd setup outcomes
    rw [hframe]
    rfl
  rw [heq, List.map_map, ← hpolled]
  refine List.map_congr_left fun p _ => ?_
  obtain ⟨trust, htrust⟩ := hf p
  rw [Function.comp_apply, htrust]
  rfl

/-- A round enables no peer, and it disables peers only if it is the first one. -/
theorem enabled_ending {round : Round} {setup : Bool} {i : Nat} {q : Peer}
    (hq : (round.ending setup).2.1.peers[i]? = some q) :
    ∃ p, round.controller.peers[i]? = some p ∧
      (q.enabled = p.enabled ∨ setup = true ∧ p.enabled = true ∧ q.enabled = false) := by
  obtain ⟨f, hf, heq⟩ := round.exists_peers_ending setup
  rw [heq, List.getElem?_map, Option.map_eq_some_iff] at hq
  obtain ⟨polled, hpolled, rfl⟩ := hq
  obtain ⟨trust, htrust⟩ := hf polled
  obtain ⟨p, w, hp, -, rfl⟩ := Controller.polledPeers_at hpolled
  refine ⟨p, hp, ?_⟩
  rw [htrust]
  show (p.polled _ setup (p.outcomes setup w)).enabled = _ ∨ _ ∧ _ ∧
    (p.polled _ setup (p.outcomes setup w)).enabled = _
  rw [Peer.enabled_polled]
  cases setup with
  | false => exact .inl (by simp [not_cutsOff_false])
  | true =>
    cases p.enabled with
    | false => exact .inl rfl
    | true => cases (p.outcomes true w).any (·.cutsOff true) <;> simp

end Round

/-! ## The course of a life -/

namespace Life

variable {s : Life}

/-- Unless the peers are looked for, a step keeps where they come from and how they are asked. -/
theorem sources_next (h : s.stage ≠ .fresh) :
    s.next.controller.peers.map Peer.source = s.controller.peers.map Peer.source := by
  obtain ⟨hfresh, -⟩ | ⟨setup, round, hround⟩ | ⟨_, _, _, _, heq⟩ := s.next_cases
  · exact absurd hfresh h
  · rw [next_of_round? hround]
    obtain ⟨rfl, -⟩ := eq_of_round? hround
    exact Round.sources_ending _ setup
  · rw [heq]

/-- Unless the peers are looked for, a step enables no peer, and it disables peers only if it is the
first round. -/
theorem enabled_next (h : s.stage ≠ .fresh) {i : Nat} {q : Peer}
    (hq : s.next.controller.peers[i]? = some q) :
    ∃ p, s.controller.peers[i]? = some p ∧ (q.enabled = p.enabled ∨
      s.stage = .found ∧ p.enabled = true ∧ q.enabled = false) := by
  obtain ⟨hfresh, -⟩ | ⟨setup, round, hround⟩ | ⟨_, _, _, _, heq⟩ := s.next_cases
  · exact absurd hfresh h
  · rw [next_of_round? hround] at hq
    obtain ⟨rfl, hstage⟩ := eq_of_round? hround
    obtain ⟨p, hp, hsame | ⟨rfl, hdisabled⟩⟩ := Round.enabled_ending hq
    · exact ⟨p, hp, .inl hsame⟩
    · exact ⟨p, hp, .inr ⟨hstage, hdisabled⟩⟩
  · rw [heq] at hq
    exact ⟨q, hq, .inl rfl⟩

end Life

/-- The requests that a later round makes of the enabled ones among some peers, in their order, when
each of them may be asked the given number of times. -/
def laterRequests (peers : List Peer) (count : Nat) (w : World) : List Event :=
  (peers.filter (·.enabled)).flatMap fun p =>
    List.replicate (requestsMade ((w.script p.address).upcoming count))
      (.query p.address p.port p.timeout)

/-- The requests depend on nothing but where the peers come from, how they are asked, and which of
them are enabled. -/
theorem laterRequests_congr {peers others : List Peer}
    (hsources : others.map Peer.source = peers.map Peer.source)
    (henabled : others.map (·.enabled) = peers.map (·.enabled)) (count : Nat) (w : World) :
    laterRequests others count w = laterRequests peers count w := by
  induction peers generalizing others with
  | nil =>
    obtain rfl := List.map_eq_nil_iff.1 hsources
    rfl
  | cons p rest ih =>
    cases others with
    | nil => cases hsources
    | cons q more =>
      simp only [List.map_cons, List.cons.injEq] at hsources henabled
      have hrest := ih hsources.2 henabled.2
      obtain ⟨-, haddress, hport, htimeout, -⟩ := Source.mk.inj hsources.1
      cases he : p.enabled <;> simp_all [laterRequests]

/-- A whole number raised to one is not below one. -/
theorem Number.pos_of_raised {n : Number} {count : Int}
    (h : (if n.lt (.int 1) then .int 1 else n) = .int count) : 0 < count := by
  split at h
  · exact Number.int.inj h ▸ Int.one_pos
  · rename_i hlow
    rw [h, Number.lt_int] at hlow
    exact Int.lt_of_lt_of_le Int.one_pos (Int.not_lt.1 hlow)

namespace Controller

variable {config : Config} {collected : Bool} {c : Controller} {pauses : List Pause} {w : World}

/-- The number of requests of a new controller is that of its configuration, and it is not below
one. -/
theorem requests_of_make (h : make? config collected = .ok c) :
    c.config.maxSamples.number? = some c.requests ∧
      ∀ count, c.requests = .int count → 0 < count := by
  unfold make? at h
  obtain ⟨clamped, hclamp, h⟩ := bind_eq_ok.1 h
  obtain ⟨pace, -, h⟩ := bind_eq_ok.1 h
  obtain ⟨requests, hrequests, h⟩ := bind_eq_ok.1 h
  obtain ⟨quorum, -, h⟩ := bind_eq_ok.1 h
  cases h
  have hclamp := mapError_eq_ok.1 hclamp
  unfold Config.clamp at hclamp
  obtain ⟨polls, -, hclamp⟩ := bind_eq_ok.1 hclamp
  obtain ⟨rateSize, -, hclamp⟩ := bind_eq_ok.1 hclamp
  obtain ⟨maxSamples, hmax, hclamp⟩ := bind_eq_ok.1 hclamp
  obtain ⟨goodFilter, -, hclamp⟩ := bind_eq_ok.1 hclamp
  cases hclamp
  obtain ⟨n, -, hraised⟩ := Config.number?_atLeast hmax
  have hrequests := mapError_eq_ok.1 hrequests
  simp only [Document.numberFor, hraised] at hrequests
  cases hrequests
  exact ⟨hraised, fun count hcount => Number.pos_of_raised hcount⟩

/-- The peers found are enabled, and each of them is asked as often as the configuration says. -/
theorem peers_of_init_of_make (h : make? config collected = .ok c) (w : World) :
    ∀ p ∈ (c.init w).2.1.peers, p.IsNew ∧ p.maxSamples = c.requests := by
  have hnone := (of_make h).2.2.1
  obtain heq | heq | ⟨peers, w', hfound, heq⟩ := c.peers_of_init w
  · rw [heq, hnone]
    intro p hp
    cases hp
  · rw [heq]
    intro p hp
    cases hp
  · rw [heq]
    intro p hp
    have hmax := forall_of_findPeers (P := fun p => p.maxSamples = c.requests) (fun _ _ => rfl)
      hfound
    exact ⟨isNew_of_findPeers hfound p hp, hmax p hp⟩

/-- The first round has no reference if the number of requests is not whole. -/
theorem exists_count_of_firstSync {d : Controller} {w : World} {r : Reference} {requests : Number}
    (hpeers : ∀ p ∈ d.peers, p.IsNew ∧ p.maxSamples = requests)
    (h : (d.firstSync w).1 = .ok r) : ∃ count, requests = .int count := by
  have hend := d.firstSync_end w
  rw [h] at hend
  cases hend with
  | published hchoose hpublish =>
    obtain ⟨hpeer, hhealthy, -⟩ :=
      Quorum.mem_eligible_iff.1 (Quorum.mem_eligible_of_choose hchoose)
    obtain ⟨p, w', hp, -, hpolled⟩ := polledPeers_at hpeer
    obtain ⟨hnew, hmax⟩ := hpeers p (List.mem_of_getElem? hp)
    cases requests with
    | int count => exact ⟨count, rfl⟩
    | real x =>
      have hnone : p.outcomes true w' = [] := by
        simp [Peer.outcomes, Peer.requestCount, hmax, Script.upcoming, heard]
      rw [hpolled] at hhealthy
      have hjudge := ((Peer.healthy_polled_iff _ _ _ _ hnew.enabled).1 hhealthy).2
      rw [hnone] at hjudge
      cases hjudge

/-! ## Frozen runs -/

/-- The peers of a run stay those that were found, and later rounds ask those of them that the first
round left enabled. -/
structure Frozen (c : Controller) (pauses : List Pause) (w : World) : Prop where
  /-- Once they are found, the peers stay in their order, each with where it comes from and how it
  is asked. -/
  sources : ∀ n, 1 ≤ n → (c.course pauses w n).controller.peers.map Peer.source =
    (c.course pauses w 1).controller.peers.map Peer.source
  /-- A step changes whether a peer is asked only if it is the first round, and only from asked to
  not asked. -/
  enabled : ∀ (n i : Nat) (p q : Peer), (c.course pauses w n).controller.peers[i]? = some p →
    (c.course pauses w (n + 1)).controller.peers[i]? = some q → q.enabled ≠ p.enabled →
    (c.course pauses w n).stage = .found ∧ p.enabled = true ∧ q.enabled = false
  /-- A later round makes its requests of the peers that are enabled after the first one, in their
  order and as often as the configuration says, and then at most one attempt to set the clock. Fewer
  requests are made of a peer only if the last of them comes to a fault. -/
  asked : ∀ n round, (c.course pauses w n).round? = some (false, round) →
    ∃ count : Nat, c.config.maxSamples.number? = some (.int count) ∧ 0 < count ∧
      (∃ attempts, (c.course pauses w n).doing =
          laterRequests (c.course pauses w 2).controller.peers count round.world ++ attempts ∧
        (attempts = [] ∨ ∃ value, attempts = [.setTime value])) ∧
      ∀ p ∈ (c.course pauses w 2).controller.peers,
        let outcomes := (round.world.script p.address).upcoming count
        requestsMade outcomes = count ∨ requestsMade outcomes < count ∧
          ∃ f, outcomes[requestsMade outcomes - 1]? = some (.fault f)

/-- Once the peers are found, they stay in their order. -/
theorem sources_course {n : Nat} (hn : 1 ≤ n) :
    (c.course pauses w n).controller.peers.map Peer.source =
      (c.course pauses w 1).controller.peers.map Peer.source := by
  induction hn with
  | refl => rfl
  | @step n hn ih =>
    have hn : 1 ≤ n := hn
    rw [course_succ, Life.sources_next, ih]
    intro hfresh
    have := (began_course c pauses w n).fresh hfresh
    omega

/-- Once the first round is over, the peers stay enabled or not. -/
theorem enabled_course {n : Nat} (hn : 2 ≤ n) :
    (c.course pauses w n).controller.peers.map (·.enabled) =
      (c.course pauses w 2).controller.peers.map (·.enabled) := by
  induction hn with
  | refl => rfl
  | @step n hn ih =>
    have hn : 2 ≤ n := hn
    rw [← ih, course_succ]
    have hstage := began_course c pauses w n
    have hfresh : (c.course pauses w n).stage ≠ .fresh := by
      intro h
      have := hstage.fresh h
      omega
    have hlength := congrArg List.length (Life.sources_next hfresh)
    rw [List.length_map, List.length_map] at hlength
    refine List.ext_getElem? fun i => ?_
    rw [List.getElem?_map, List.getElem?_map]
    cases hq : (c.course pauses w n).next.controller.peers[i]? with
    | none =>
      rw [List.getElem?_eq_none_iff, hlength] at hq
      rw [List.getElem?_eq_none hq]
    | some q =>
      obtain ⟨p, hp, hsame | ⟨hfound, -⟩⟩ := Life.enabled_next hfresh hq
      · rw [hp, Option.map_some, Option.map_some, hsame]
      · have := (hstage.found hfound).1
        omega

/-- The peers of a run are at different addresses. -/
theorem nodup_course (h : make? config collected = .ok c) {n : Nat} (hn : 1 ≤ n) :
    ((c.course pauses w n).controller.peers.map (·.address)).Nodup := by
  have haddress (peers : List Peer) :
      peers.map (·.address) = (peers.map Peer.source).map (·.address) := by
    rw [List.map_map]
    rfl
  rw [haddress, sources_course hn, ← haddress, course_succ, course_zero]
  exact nodup_of_reachable ((Reachable.made h).init w)

/-- The peers of a run are asked as often as the configuration says. -/
theorem maxSamples_course (h : make? config collected = .ok c) {n : Nat} (hn : 1 ≤ n) {p : Peer}
    (hp : p ∈ (c.course pauses w n).controller.peers) : p.maxSamples = c.requests := by
  have hmem := List.mem_map_of_mem (f := Peer.source) hp
  rw [sources_course hn] at hmem
  obtain ⟨first, hfirst, heq⟩ := List.mem_map.1 hmem
  rw [course_succ, course_zero] at hfirst
  have hmax := (peers_of_init_of_make h w first hfirst).2
  obtain ⟨-, -, -, -, hsame⟩ := Source.mk.inj heq
  rw [← hsame, hmax]

/-- In every run of a new controller the peers that are asked are frozen after the first round. -/
theorem frozen_of_make (h : make? config collected = .ok c) (pauses : List Pause) (w : World) :
    Frozen c pauses w := by
  refine ⟨fun n hn => sources_course hn, ?_, ?_⟩
  · intro n i p q hp hq hne
    by_cases hfresh : (c.course pauses w n).stage = .fresh
    · -- Before the peers are looked for there are none.
      obtain rfl := (began_course c pauses w n).fresh hfresh
      rw [course_zero, (of_make h).2.2.1] at hp
      cases hp
    · rw [course_succ] at hq
      obtain ⟨p', hp', hsame | hdisabled⟩ := Life.enabled_next hfresh hq
      · obtain rfl := Option.some.inj (hp'.symm.trans hp)
        exact absurd hsame hne
      · obtain rfl := Option.some.inj (hp'.symm.trans hp)
        exact hdisabled
  · intro n round hround
    obtain ⟨rfl, hstage⟩ := Life.eq_of_round? hround
    have hwoken : (c.course pauses w n).stage = .woken := hstage
    obtain ⟨hn, hinit, r, hfirst⟩ := (began_course c pauses w n).synced (by rw [hwoken]; rfl)
    obtain ⟨hnumber, hpositive⟩ := requests_of_make h
    -- The first round had a reference, so the number of requests is whole.
    obtain ⟨count, hcount⟩ := exists_count_of_firstSync (peers_of_init_of_make h w) hfirst
    have hpos := hpositive count hcount
    obtain ⟨k, rfl⟩ := Int.eq_ofNat_of_zero_le (Int.le_of_lt hpos)
    refine ⟨k, hnumber.trans (congrArg some hcount), Int.natCast_pos.1 hpos, ?_, ?_⟩
    · have hrequests : Round.requests ⟨(c.course pauses w n).controller,
          (c.course pauses w n).world⟩ false =
          laterRequests (c.course pauses w 2).controller.peers k (c.course pauses w n).world := by
        rw [Round.requests_eq (nodup_course h (Nat.le_of_lt hn)),
          ← laterRequests_congr ((sources_course (Nat.le_of_lt hn)).trans
            (sources_course (Nat.le_succ 1)).symm) (enabled_course hn), laterRequests,
          List.flatMap_def, List.flatMap_def]
        refine congrArg List.flatten (List.map_congr_left fun p hp => ?_)
        have hmax := maxSamples_course h (Nat.le_of_lt hn) (List.mem_filter.1 hp).1
        rw [Peer.queries, Peer.outcomes, length_heard, Peer.requestCount, hmax, hcount]
        rfl
      obtain hdoing | ⟨value, hdoing⟩ := doing_of_round? hround
      · exact ⟨[], by rw [hdoing, hrequests, List.append_nil], .inl rfl⟩
      · exact ⟨[.setTime value], by rw [hdoing, hrequests], .inr ⟨value, rfl⟩⟩
    · intro p _ outcomes
      have hlength : outcomes.length = k := Script.length_upcoming k _
      have hle : requestsMade outcomes ≤ k := hlength ▸ Nat.min_le_left _ _
      obtain hlt | heq := Nat.lt_or_eq_of_le hle
      · exact .inr ⟨hlt, fault_of_requestsMade_lt (hlength.symm ▸ hlt)⟩
      · exact .inl heq

/-- A configuration of three peers that are asked twice, and of whose samples one is enough. -/
def threePeers : Config :=
  { peers := .list [.text "a", .text "b", .text "c"], maxSamples := .int 2, goodFilter := .int 1 }

/-- A world in which the first peer always answers, the second one is out of reach at first, and a
request to the third one comes to a fault after two without an answer. -/
def unevenServers : World :=
  { names := [("a", .addresses ["192.0.2.1"]), ("b", .addresses ["192.0.2.2"]),
      ("c", .addresses ["192.0.2.3"])]
    network := [
      ("192.0.2.1",
        { default := .sample ⟨.ofDecimal false 1 (-3), 2, 0, .zero, .zero, .zero, 0, .zero⟩ }),
      ("192.0.2.2", { items := [.system ⟨some 101, some "Network is unreachable"⟩]
                      default := .sample ⟨.zero, 2, 0, .zero, .zero, .zero, 0, .zero⟩ }),
      ("192.0.2.3", { items := [.silence, .silence, .fault (.unexpected none)] })] }

/-- The new controller of the three peers. -/
def threePeersMade : Controller := (make? threePeers false).toOption.get (by decide +kernel)

/-- The new controller of the three peers is what the configuration comes to. -/
theorem threePeersMade_eq : make? threePeers false = .ok threePeersMade :=
  eq_ok_of_toOption (Option.some_get _).symm

/-- Of the three peers the second one is not asked again after the first round, though it would
answer, and the third one is asked once in the second round, which comes to a fault, and then twice
again. -/
theorem frozen_of_unevenServers : Frozen threePeersMade [{}, {}] unevenServers ∧
    ((List.range 9).map fun n => ((threePeersMade.course [{}, {}] unevenServers n).doing.filterMap
      fun
        | .query address _ _ => some address
        | _ => none)) =
      [[], ["192.0.2.1", "192.0.2.1", "192.0.2.2", "192.0.2.3", "192.0.2.3"], [], [], [],
        ["192.0.2.1", "192.0.2.1", "192.0.2.3"], [],
        ["192.0.2.1", "192.0.2.1", "192.0.2.3", "192.0.2.3"], []] := by
  refine ⟨frozen_of_make threePeersMade_eq [{}, {}] unevenServers, ?_⟩
  decide +kernel

end Controller

end Concord
