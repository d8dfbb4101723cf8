import Concord.Proofs.Runs

/-!
# Trust and waits as a function of the history

The trust in a peer is raised by one round and reset by another, with a cap, and the wait after a
round is looked up by the trust that the reference's peer had before it. Over a whole history of
completed rounds this comes to a closed form. The trust in a peer counts the rounds with a small
offset that found it healthy since the last large offset (`Round.gained`), and the wait depends on
the last round alone (`waitAfter`).

The main statement is `trust_and_wait_of_history`, for every configuration whose bounds are whole
numbers, whatever they are: `Config.lowerBound` and `Config.upperBound` say what becomes of them.
-/

namespace Concord

/-! ## Bounds of a configuration -/

namespace Config

/-- The lower bound of the trust levels for a whole number in the configuration. -/
def lowerBound (minPoll : Int) : Int := min highestTrust (max minPoll lowestTrust)

/-- The upper bound of the trust levels for whole numbers in the configuration. It is not below the
lower one. -/
def upperBound (minPoll maxPoll : Int) : Int := max (lowerBound minPoll) (min maxPoll highestTrust)

/-- A whole number is raised to a lower bound. -/
theorem atLeast_whole {d : Document} {n : Int} (bound : Int) (h : d.number? = some (.int n)) :
    ∃ raised, atLeast bound d = .ok raised ∧ raised.number? = some (.int (max n bound)) := by
  have hnumber : d.numberFor "<" = .ok (.int n) := by rw [Document.numberFor, h]
  unfold atLeast
  rw [hnumber]
  by_cases hlt : n < bound
  · refine ⟨.int bound, ?_, ?_⟩
    · show Except.ok (if (Number.int n).lt (.int bound) then .int bound else d) = _
      rw [if_pos (Number.lt_int.2 hlt)]
    · rw [Int.max_eq_right (Int.le_of_lt hlt)]
      rfl
  · refine ⟨d, ?_, ?_⟩
    · show Except.ok (if (Number.int n).lt (.int bound) then .int bound else d) = _
      rw [if_neg (by rwa [Number.lt_int])]
    · rw [Int.max_eq_left (Int.not_lt.1 hlt)]
      exact h

/-- A whole number is cut to an upper bound. -/
theorem atMost_whole {d : Document} {n : Int} (bound : Int) (h : d.number? = some (.int n)) :
    ∃ cut, atMost bound d = .ok cut ∧ cut.number? = some (.int (min n bound)) := by
  have hnumber : d.numberFor ">" = .ok (.int n) := by rw [Document.numberFor, h]
  unfold atMost
  rw [hnumber]
  by_cases hlt : bound < n
  · refine ⟨.int bound, ?_, ?_⟩
    · show Except.ok (if (Number.int bound).lt (.int n) then .int bound else d) = _
      rw [if_pos (Number.lt_int.2 hlt)]
    · rw [Int.min_eq_right (Int.le_of_lt hlt)]
      rfl
  · refine ⟨d, ?_, ?_⟩
    · show Except.ok (if (Number.int bound).lt (.int n) then .int bound else d) = _
      rw [if_neg (by rwa [Number.lt_int])]
    · rw [Int.min_eq_left (Int.not_lt.1 hlt)]
      exact h

/-- Whole bounds are brought in order. -/
theorem clampPolls_whole {minPoll maxPoll : Document} {a b : Int}
    (hmin : minPoll.number? = some (.int a)) (hmax : maxPoll.number? = some (.int b)) :
    ∃ low high, clampPolls minPoll maxPoll = .ok (low, high) ∧
      low.number? = some (.int (lowerBound a)) ∧ high.number? = some (.int (upperBound a b)) := by
  obtain ⟨low, hlow, hlowNumber⟩ := atLeast_whole lowestTrust hmin
  obtain ⟨high, hhigh, hhighNumber⟩ := atMost_whole highestTrust hmax
  have hlowFor : low.numberFor "<" = .ok (.int (max a lowestTrust)) := by
    rw [Document.numberFor, hlowNumber]
  have hhighFor : high.numberFor "<" = .ok (.int (min b highestTrust)) := by
    rw [Document.numberFor, hhighNumber]
  simp only [clampPolls, hlow, hhigh, hlowFor, hhighFor, bind, Except.bind, pure, Except.pure,
    Number.lt_int]
  by_cases hhighest : highestTrust < max a lowestTrust
  · -- The lower bound is above the highest level, which both bounds become.
    refine ⟨_, _, by rw [if_pos hhighest], ?_, ?_⟩
    · rw [lowerBound, Int.min_eq_left (Int.le_of_lt hhighest)]
      rfl
    · rw [upperBound, lowerBound, Int.min_eq_left (Int.le_of_lt hhighest),
        Int.max_eq_left (Int.min_le_right ..)]
      rfl
  · have hlower : lowerBound a = max a lowestTrust := Int.min_eq_right (Int.not_lt.1 hhighest)
    refine ⟨_, _, by rw [if_neg hhighest], ?_, ?_⟩
    · rw [hlower]
      exact hlowNumber
    · rw [upperBound, hlower]
      by_cases horder : min b highestTrust < max a lowestTrust
      · rw [if_pos horder, Int.max_eq_left (Int.le_of_lt horder)]
        exact hlowNumber
      · rw [if_neg horder, Int.max_eq_right (Int.not_lt.1 horder)]
        exact hhighNumber

/-- The bounds of a clamped configuration. -/
theorem clampPolls_of_clamp {config clamped : Config} (h : config.clamp = .ok clamped) :
    clampPolls config.minPoll config.maxPoll = .ok (clamped.minPoll, clamped.maxPoll) := by
  unfold clamp at h
  obtain ⟨⟨low, high⟩, hpolls, h⟩ := bind_eq_ok.1 h
  obtain ⟨rateSize, -, h⟩ := bind_eq_ok.1 h
  obtain ⟨maxSamples, -, h⟩ := bind_eq_ok.1 h
  obtain ⟨goodFilter, -, h⟩ := bind_eq_ok.1 h
  cases h
  exact hpolls

end Config

/-! ## What a history says -/

namespace Round

/-- The reference of a completed round, if it had one. -/
def chosen (round : Round) : Option Reference :=
  match round.result with
  | .ok chosen => chosen
  | .error _ => none

/-- The round had a reference with a small offset. -/
def isStable (round : Round) : Bool :=
  match round.chosen with
  | some r => r.offset.abs.lt Pace.standardStable
  | none => false

/-- The round had a reference with a large offset. -/
def isUnstable (round : Round) : Bool :=
  match round.chosen with
  | some r => !r.offset.abs.lt Pace.standardStable
  | none => false

/-- The round found the peer at a place healthy. -/
def foundHealthy (round : Round) (i : Nat) : Bool :=
  ((round.polled false)[i]?.map (·.healthy)).getD false

/-- The trust in the peer at a place before the round. -/
def trustBefore (round : Round) (i : Nat) : Int :=
  (round.controller.peers[i]?.map (·.trust)).getD lowestTrust

/-- The number of rounds with a small offset that found the peer at a place healthy, after the last
round with a large offset. -/
def gained (i : Nat) (rounds : List Round) : Nat :=
  (rounds.reverse.takeWhile (!·.isUnstable)).countP fun round =>
    round.isStable && round.foundHealthy i

/-- One more round starts the count anew or adds at most one. -/
theorem gained_append (i : Nat) (rounds : List Round) (round : Round) :
    gained i (rounds ++ [round]) =
      if round.isUnstable then 0
      else gained i rounds + if round.isStable && round.foundHealthy i then 1 else 0 := by
  unfold gained
  rw [List.reverse_append, List.reverse_singleton, List.singleton_append, List.takeWhile_cons]
  cases round.isUnstable with
  | true => rfl
  | false => simp only [Bool.not_false, if_true, List.countP_cons]; rfl

end Round

/-- The wait after a history of rounds, for the given bounds of the trust levels. -/
def waitAfter (low high : Int) (rounds : List Round) : Binary64 :=
  match rounds.getLast? with
  | none => .ofNat 16
  | some round =>
    match round.chosen with
    | none => .ofInt 10
    | some r =>
      if round.isStable then
        .ofNat (2 ^ (3 + (max low (min (round.trustBefore r.peerIndex) high)).toNat))
      else .ofNat 16

namespace Controller

/-! ## One completed round -/

/-- A completed round follows the pace. -/
theorem next_of_completed {c : Controller} {w : World} {chosen : Option Reference}
    (h : (c.cycle w).1 = .ok chosen) :
    Quorum.choose (c.polledPeers false w) c.quorum = chosen ∧
      c.pace.next (c.polledPeers false w) chosen =
        .ok ((c.cycle w).2.1.sleep, (c.cycle w).2.1.peers) := by
  have hend := c.cycle_end w
  rw [h] at hend
  generalize (c.cycle w).2.1 = d at hend ⊢
  cases hend with
  | noReference hchoose => exact ⟨hchoose, rfl⟩
  | published hchoose hnext hpublish =>
    obtain ⟨_, _, _, _, _, _, rfl⟩ := publish_frame hpublish
    exact ⟨hchoose, hnext⟩

/-- The reference of a completed round. -/
theorem chosen_of_completed {c : Controller} {w : World} {chosen : Option Reference}
    (h : (c.cycle w).1 = .ok chosen) : (Round.mk c w).chosen = chosen := by
  show (match (c.cycle w).1 with
    | .ok chosen => chosen
    | .error _ => none) = chosen
  rw [h]

/-- A round is stable as its pace says of the offset of its reference. -/
theorem isStable_of_chosen {round : Round} {r : Reference}
    (hstandard : StandardPace round.controller.pace) (h : round.chosen = some r) :
    round.isStable = round.controller.pace.isStable r.offset := by
  rw [Round.isStable, h, Pace.isStable, hstandard.stableOffset]

/-- A round with a reference is unstable if it is not stable. -/
theorem isUnstable_of_chosen {round : Round} {r : Reference}
    (hstandard : StandardPace round.controller.pace) (h : round.chosen = some r) :
    round.isUnstable = !round.controller.pace.isStable r.offset := by
  rw [Round.isUnstable, h, Pace.isStable, hstandard.stableOffset]

/-- Polling does not touch the trust that its peer had before the round. -/
theorem trustBefore_of_choose {c : Controller} {w : World} {r : Reference}
    (h : Quorum.choose (c.polledPeers false w) c.quorum = some r) :
    (Round.mk c w).trustBefore r.peerIndex = r.peer.trust := by
  obtain ⟨hplace, -⟩ := Quorum.mem_eligible_iff.1 (Quorum.mem_eligible_of_choose h)
  obtain ⟨p, w', hp, -, hsame⟩ := polledPeers_at hplace
  rw [Round.trustBefore, hp, hsame, Peer.trust_polled]
  rfl

/-- Later rounds keep the pace. -/
theorem pace_of_steady {start d : Controller} {rounds : List Round}
    (h : Steady start rounds d) : d.pace = start.pace := by
  induction h with
  | start => rfl
  | pass _ hpass ih =>
    obtain ⟨_, _, _, _, rfl⟩ := hpass.frame
    exact ih
  | @cycle rounds c w _ ih =>
    obtain ⟨_, _, _, _, _, _, _, _, _, -, heq⟩ := c.cycle_frame w
    rw [heq]
    exact ih

/-- The trust in the peer at a place after a completed round. -/
theorem trust_of_completed {c : Controller} {w : World} {chosen : Option Reference} {low high : Int}
    (hwhole : c.pace.Whole low high) (hstandard : StandardPace c.pace)
    (h : (c.cycle w).1 = .ok chosen) {i : Nat} {q : Peer}
    (hq : (c.cycle w).2.1.peers[i]? = some q) :
    ∃ p, c.peers[i]? = some p ∧
      q.trust = if (Round.mk c w).isUnstable then lowestTrust
        else if ((Round.mk c w).isStable && (Round.mk c w).foundHealthy i) ∧ p.trust < high then
          p.trust + 1
        else p.trust := by
  obtain ⟨-, hnext⟩ := next_of_completed h
  rw [Pace.trusted_of_next hnext, List.getElem?_map, Option.map_eq_some_iff] at hq
  obtain ⟨polled, hpolled, rfl⟩ := hq
  obtain ⟨p, w', hp, -, hsame⟩ := polledPeers_at hpolled
  refine ⟨p, hp, ?_⟩
  have htrust : polled.trust = p.trust := by rw [hsame, Peer.trust_polled]
  have hchosen := chosen_of_completed h
  have hhealthy : (Round.mk c w).foundHealthy i = polled.healthy := by
    show ((c.polledPeers false w)[i]?.map (·.healthy)).getD false = _
    rw [hpolled]
    rfl
  rw [hhealthy]
  cases chosen with
  | none =>
    have hunstable : (Round.mk c w).isUnstable = false := by rw [Round.isUnstable, hchosen]
    have hstable : (Round.mk c w).isStable = false := by rw [Round.isStable, hchosen]
    rw [hunstable, hstable]
    exact htrust
  | some r =>
    rw [isUnstable_of_chosen hstandard hchosen, isStable_of_chosen hstandard hchosen, Pace.adjust]
    cases c.pace.isStable r.offset with
    | true =>
      rw [if_pos rfl, hwhole.trust_raise, htrust]
      rfl
    | false => rfl

/-! ## Whole histories -/

/-- All rounds of a history were completed. -/
def Completed (rounds : List Round) : Prop := ∀ round ∈ rounds, ∃ chosen, round.result = .ok chosen

variable {start d : Controller} {rounds : List Round} {low high : Int}

/-- The trust in a peer is capped, and counts the rounds that it gained since the last large
offset. -/
theorem trust_of_steady (hwhole : start.pace.Whole low high) (hstandard : StandardPace start.pace)
    (hlowest : ∀ p ∈ start.peers, p.trust = lowestTrust) (h : Steady start rounds d)
    (hcompleted : Completed rounds) {i : Nat} {p : Peer} (hp : d.peers[i]? = some p) :
    p.trust = min high (1 + Round.gained i rounds) := by
  have hbounds := hwhole.bounds
  -- By induction on the history, for the peers that stand at the same place before each round.
  induction h generalizing p with
  | start =>
    rw [hlowest p (List.mem_of_getElem? hp)]
    simp only [lowestTrust] at hbounds ⊢
    show 1 = min high (1 + ((0 : Nat) : Int))
    omega
  | pass _ hpass ih =>
    obtain ⟨_, _, _, _, rfl⟩ := hpass.frame
    exact ih hcompleted hp
  | @cycle rounds c w hsteady ih =>
    obtain ⟨chosen, hresult⟩ := hcompleted ⟨c, w⟩ (by simp)
    have hpace := pace_of_steady hsteady
    rw [← hpace] at hwhole hstandard
    obtain ⟨before, hbefore, htrust⟩ := trust_of_completed hwhole hstandard hresult hp
    have hbeforeTrust := ih (fun round hround => hcompleted round (by simp [hround])) hbefore
    rw [htrust, Round.gained_append, hbeforeTrust]
    simp only [lowestTrust] at hbounds ⊢
    -- The cap is reached, or the trust still counts every round.
    split
    · show 1 = min high (1 + ((0 : Nat) : Int))
      omega
    · split <;> split <;> simp_all <;> omega

/-- The shortest wait of the standard pace. -/
theorem shortestWait_of_standard {pace : Pace} (h : StandardPace pace) :
    pace.shortestWait = .ofNat 16 := by
  have hzero := pace.waits_zero
  rw [h.waits, standardWaits_at (by decide)] at hzero
  exact (Option.some.inj hzero).symm

/-- The wait of a trust level of the standard pace with whole bounds. The level is one of the
table. -/
theorem waitFor_of_standard {pace : Pace} (hwhole : pace.Whole low high)
    (hstandard : StandardPace pace) (trust : Int) :
    lowestTrust ≤ max low (min trust high) ∧ max low (min trust high) ≤ highestTrust ∧
      pace.waitFor trust = .ok (.ofNat (2 ^ (3 + (max low (min trust high)).toNat))) := by
  have hclamp := hwhole.clamp_eq trust
  have hindex := pace.clamp_index hclamp
  obtain ⟨hlow, -⟩ := hwhole.bounds
  rw [hstandard.waits] at hindex
  have hlength : standardWaits.length = 10 := rfl
  rw [hlength] at hindex
  obtain ⟨wait, hwait, hplace⟩ := Pace.waitFor_of_clamp hclamp
  rw [hstandard.waits, standardWaits_at hindex] at hplace
  simp only [lowestTrust, highestTrust] at *
  refine ⟨by omega, by omega, ?_⟩
  rw [hwait, ← Option.some.inj hplace]
  congr 3
  omega

/-- The wait depends on the last round alone. -/
theorem sleep_of_steady (hwhole : start.pace.Whole low high) (hstandard : StandardPace start.pace)
    (hsleep : start.sleep = start.pace.shortestWait) (h : Steady start rounds d)
    (hcompleted : Completed rounds) : d.sleep = waitAfter low high rounds := by
  induction h with
  | start =>
    rw [hsleep, shortestWait_of_standard hstandard]
    rfl
  | pass _ hpass ih =>
    obtain ⟨_, _, _, _, rfl⟩ := hpass.frame
    exact ih hcompleted
  | @cycle rounds c w hsteady _ =>
    obtain ⟨chosen, hresult⟩ := hcompleted ⟨c, w⟩ (by simp)
    have hpace := pace_of_steady hsteady
    rw [← hpace] at hwhole hstandard
    obtain ⟨hchoose, hnext⟩ := next_of_completed hresult
    have hchosen : (Round.mk c w).chosen = chosen := chosen_of_completed hresult
    rw [waitAfter, List.getLast?_concat]
    simp only [hchosen]
    cases chosen with
    | none => exact (Pace.wait_of_next_none hnext).trans hstandard.retryWait
    | some r =>
      have hround : (Round.mk c w).isStable = c.pace.isStable r.offset :=
        isStable_of_chosen hstandard hchosen
      simp only [hround]
      -- The trust that is looked up is the one before the round, which polling leaves alone.
      obtain ⟨hstable, hwait, -⟩ | ⟨hunstable, hwait, -⟩ := Pace.next_end hnext
      · obtain ⟨-, -, hlevel⟩ := waitFor_of_standard hwhole hstandard r.peer.trust
        rw [if_pos hstable, trustBefore_of_choose hchoose]
        exact Except.ok.inj (hwait.symm.trans hlevel)
      · rw [hunstable, if_neg Bool.false_ne_true]
        exact hwait.trans (shortestWait_of_standard hstandard)

/-! ## From the configuration on -/

/-- The bounds of a new controller, if those of its configuration are whole numbers. -/
theorem whole_of_make {config : Config} {collected : Bool} {c : Controller} {a b : Int}
    (hmin : config.minPoll.number? = some (.int a)) (hmax : config.maxPoll.number? = some (.int b))
    (h : make? config collected = .ok c) :
    c.pace.Whole (Config.lowerBound a) (Config.upperBound a b) := by
  obtain ⟨hclamp, hpace, -⟩ := of_make h
  obtain ⟨-, -, -, hlow, hhigh⟩ := pace_of_make hpace
  obtain ⟨low, high, hpolls, hlowNumber, hhighNumber⟩ := Config.clampPolls_whole hmin hmax
  obtain ⟨rfl, rfl⟩ : low = c.config.minPoll ∧ high = c.config.maxPoll := by
    simpa using hpolls.symm.trans (Config.clampPolls_of_clamp hclamp)
  exact ⟨Option.some.inj (hlow.symm.trans hlowNumber),
    Option.some.inj (hhigh.symm.trans hhighNumber)⟩

/-- What a history starts with: the peers that were just found, possibly after a first round. -/
theorem start_of_init {made c start : Controller} {w w' : World}
    (hinit : made.init w = (.ok (), c, w'))
    (hstart : start = c ∨ ∃ w, start = (c.firstSync w).2.1) :
    start.pace = made.pace ∧ start.sleep = made.pace.shortestWait ∧
      ∀ p ∈ start.peers, p.trust = lowestTrust := by
  obtain ⟨peers, rfl, hnew⟩ := init_ok hinit
  obtain rfl | ⟨w'', rfl⟩ := hstart
  · exact ⟨rfl, rfl, fun p hp => (hnew p hp).trust⟩
  · obtain ⟨_, _, _, _, _, _, _, hfirst⟩ := firstSync_frame _ w''
    rw [hfirst]
    refine ⟨rfl, rfl, ?_⟩
    intro p hp
    -- Polling keeps the trust that a new peer has.
    obtain ⟨i, hi⟩ := List.mem_iff_getElem?.1 hp
    obtain ⟨q, _, hq, -, rfl⟩ := polledPeers_at hi
    rw [Peer.trust_polled]
    exact (hnew q (List.mem_of_getElem? hq)).trust

/-- After a history of completed rounds the trust in every peer is capped by the upper bound and
counts the rounds that the peer gained since the last large offset; the wait is the one that the
last round calls for; and every trust level is clamped to one that has a place in the table of
waits. -/
theorem trust_and_wait_of_history {config : Config} {collected : Bool} {made c start d : Controller}
    {w w' : World} {rounds : List Round} {a b : Int}
    (hmin : config.minPoll.number? = some (.int a)) (hmax : config.maxPoll.number? = some (.int b))
    (hmade : make? config collected = .ok made) (hinit : made.init w = (.ok (), c, w'))
    (hstart : start = c ∨ ∃ w, start = (c.firstSync w).2.1) (hsteady : Steady start rounds d)
    (hcompleted : Completed rounds) :
    (∀ i p, d.peers[i]? = some p →
      p.trust = min (Config.upperBound a b) (1 + Round.gained i rounds) ∧
        1 ≤ p.trust ∧ p.trust ≤ Config.upperBound a b) ∧
    d.sleep = waitAfter (Config.lowerBound a) (Config.upperBound a b) rounds ∧
    ∀ trust : Int, ∃ level : Nat,
      level + 1 = max (Config.lowerBound a) (min trust (Config.upperBound a b)) ∧
        d.pace.clamp trust = .int (level + 1) ∧ level < d.pace.waits.length := by
  obtain ⟨hpace, hsleep, hlowest⟩ := start_of_init hinit hstart
  have hwhole : start.pace.Whole (Config.lowerBound a) (Config.upperBound a b) := by
    rw [hpace]
    exact whole_of_make hmin hmax hmade
  have hstandard : StandardPace start.pace := by
    rw [hpace]
    exact standardPace_of_reachable (.made hmade)
  rw [← hpace] at hsleep
  refine ⟨?_, sleep_of_steady hwhole hstandard hsleep hsteady hcompleted, ?_⟩
  · intro i p hp
    have htrust := trust_of_steady hwhole hstandard hlowest hsteady hcompleted hp
    have hbounds := hwhole.bounds
    simp only [lowestTrust] at hbounds
    exact ⟨htrust, by omega, by omega⟩
  · intro trust
    obtain ⟨hlow, hhigh, -⟩ := waitFor_of_standard hwhole hstandard trust
    rw [pace_of_steady hsteady]
    have hclamp := hwhole.clamp_eq trust
    have hindex := start.pace.clamp_index hclamp
    simp only [lowestTrust] at hlow hindex
    refine ⟨_, ?_, ?_, hindex⟩
    · omega
    · rw [hclamp]
      congr 1
      omega

/-- After one round the only peer is trusted as its history says. -/
theorem history_of_oneServer :
    (∀ i p, (onePeerStarted.cycle oneServer).2.1.peers[i]? = some p →
      p.trust = min (Config.upperBound 1 7) (1 + Round.gained i [⟨onePeerStarted, oneServer⟩]) ∧
        1 ≤ p.trust ∧ p.trust ≤ Config.upperBound 1 7) ∧
    (onePeerStarted.cycle oneServer).2.1.sleep = waitAfter (Config.lowerBound 1)
      (Config.upperBound 1 7) [⟨onePeerStarted, oneServer⟩] := by
  obtain ⟨made, w', hmade, hinit⟩ := exists_of_start? onePeerStarted_eq
  have hcompleted : Completed [⟨onePeerStarted, oneServer⟩] := by
    intro round hround
    obtain rfl := List.mem_singleton.1 hround
    have hok : (Round.result ⟨onePeerStarted, oneServer⟩).isOk = true := by decide +kernel
    exact exists_of_isOk hok
  obtain ⟨htrust, hwait, -⟩ := trust_and_wait_of_history rfl rfl hmade hinit (.inl rfl)
    (.cycle oneServer .start) hcompleted
  exact ⟨htrust, hwait⟩

end Controller

end Concord
