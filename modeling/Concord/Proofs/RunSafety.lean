import Concord.Proofs.Course

/-!
# What a run does to the world, and when

The main statement is `safeRun_of_make`: every run of a new controller is safe (`SafeRun`). Its
course says in which order things happen. No socket is opened before the clock was corrected a first
time. A round sets the clock at most once, after all of its requests and with enough samples. After
an attempt to set the clock that failed, nothing more happens than that the responder's socket is
closed. However the run ends, a socket that was opened is closed exactly once.
-/

namespace Concord

/-! ## Enough samples -/

/-- There are as many eligible samples as required, and one at least, when one of them is chosen. -/
theorem Quorum.le_of_choose {peers : List Peer} {g : Number} {r : Reference}
    (h : choose peers (if g.lt (.int 1) then .int 1 else g) = some r) :
    ((Number.int 1).upper g).le (.int (eligible peers).length) = true := by
  have hpos : 0 < (eligible peers).length := List.length_pos_of_mem (mem_eligible_of_choose h)
  unfold Number.upper
  split
  · rename_i hlt
    have hle := Number.le_of_lt hlt
    rw [Number.lt_eq_false_of_le hle, if_neg Bool.false_ne_true] at h
    unfold choose median tooFew at h
    split at h
    · cases h
    · rename_i hmany
      refine Number.le_of_lt_eq_false (Number.le_int.2 (Int.le_refl _))
        (Number.le_refl_right hle) ?_
      exact Bool.not_eq_true _ ▸ hmany
  · exact Number.le_int.2 (by omega)

/-- A setting raised to a lower bound is the larger one of the two. -/
theorem Config.number?_atLeast {bound : Int} {d raised : Document}
    (h : atLeast bound d = .ok raised) :
    ∃ n, d.number? = some n ∧
      raised.number? = some (if n.lt (.int bound) then .int bound else n) := by
  unfold atLeast Document.numberFor at h
  cases hn : d.number? with
  | none =>
    rw [hn] at h
    cases h
  | some n =>
    rw [hn] at h
    cases h
    refine ⟨n, rfl, ?_⟩
    split
    · rfl
    · exact hn

/-- What a new controller takes over from its configuration: the least number of eligible samples,
raised to one, whether the clock is never touched, and whether corrections are forced. -/
structure Controller.TakesOver (config : Config) (c : Controller) : Prop where
  quorum : ∃ g, config.goodFilter.number? = some g ∧
    c.quorum = if g.lt (.int 1) then .int 1 else g
  clock : c.clock = { dryRun := config.dryRun.isSet }
  forceUpdate : c.config.forceUpdate = config.forceUpdate

/-- A new controller takes that over from its configuration. -/
theorem Controller.takesOver_of_make {config : Config} {collected : Bool} {c : Controller}
    (h : make? config collected = .ok c) : TakesOver config c := by
  unfold make? at h
  obtain ⟨clamped, hclamp, h⟩ := bind_eq_ok.1 h
  obtain ⟨pace, -, h⟩ := bind_eq_ok.1 h
  obtain ⟨requests, -, h⟩ := bind_eq_ok.1 h
  obtain ⟨quorum, hquorum, h⟩ := bind_eq_ok.1 h
  cases h
  have hclamp := mapError_eq_ok.1 hclamp
  unfold Config.clamp at hclamp
  obtain ⟨polls, -, hclamp⟩ := bind_eq_ok.1 hclamp
  obtain ⟨rateSize, -, hclamp⟩ := bind_eq_ok.1 hclamp
  obtain ⟨maxSamples, -, hclamp⟩ := bind_eq_ok.1 hclamp
  obtain ⟨goodFilter, hgood, hclamp⟩ := bind_eq_ok.1 hclamp
  cases hclamp
  obtain ⟨g, hg, hraised⟩ := Config.number?_atLeast hgood
  have hquorum := mapError_eq_ok.1 hquorum
  simp only [Document.numberFor, hraised] at hquorum
  cases hquorum
  exact ⟨⟨g, hg, rfl⟩, rfl, rfl⟩

/-! ## The order of the steps -/

namespace Controller

variable {c : Controller} {pauses : List Pause} {w : World}

/-- The settings stay as they are in the course of a life. -/
theorem settings_course (c : Controller) (pauses : List Pause) (w : World) (n : Nat) :
    c.SameSettings (c.course pauses w n).controller := by
  induction n with
  | zero => exact .refl c
  | succ n ih =>
    rw [course_succ]
    exact ih.trans (Life.settings_next _)

end Controller

/-- At this stage the clock was corrected, and the life goes on. -/
def Stage.isSynced : Stage → Bool
  | .synced | .responding | .steady | .woken => true
  | _ => false

namespace Controller

variable {c : Controller} {pauses : List Pause} {w : World}

/-- What went well before a life came to a stage after the given number of steps. -/
structure Began (c : Controller) (w : World) (n : Nat) (stage : Stage) : Prop where
  fresh : stage = .fresh → n = 0
  found : stage = .found → n = 1 ∧ (c.init w).1 = .ok ()
  synced : stage.isSynced = true → 1 < n ∧ (c.init w).1 = .ok () ∧
    ∃ r, ((c.init w).2.1.firstSync (c.init w).2.2).1 = .ok r

/-- A life comes to no stage unless that went well. -/
theorem began_course (c : Controller) (pauses : List Pause) (w : World) (n : Nat) :
    Began c w n (c.course pauses w n).stage := by
  induction n with
  | zero => exact ⟨fun _ => rfl, nofun, nofun⟩
  | succ n ih =>
    have hfollows := (c.course pauses w n).follows_next
    rw [course_succ]
    generalize (c.course pauses w n).next.stage = stage at hfollows ⊢
    cases hfollows with
    | found hstage hinit =>
      obtain rfl := ih.fresh hstage
      exact ⟨nofun, fun _ => ⟨rfl, hinit⟩, nofun⟩
    | synced hstage hfirst =>
      obtain ⟨rfl, hinit⟩ := ih.found hstage
      exact ⟨nofun, nofun, fun _ => ⟨Nat.lt_succ_self 1, hinit, _, hfirst⟩⟩
    | responding hstage | steady hstage | woken hstage | again hstage =>
      obtain ⟨hlt, hinit, hfirst⟩ := ih.synced (by rw [hstage]; rfl)
      exact ⟨nofun, nofun, fun _ => ⟨Nat.lt_succ_of_lt hlt, hinit, hfirst⟩⟩
    | closing | ended => exact ⟨nofun, nofun, nofun⟩

/-- A life that has ended stays as it is. -/
theorem course_of_ended {n k : Nat} {result : Except Trouble Unit}
    (h : (c.course pauses w n).stage = .ended result) (hk : n ≤ k) :
    c.course pauses w k = c.course pauses w n := by
  obtain ⟨m, rfl⟩ := Nat.exists_eq_add_of_le hk
  clear hk
  induction m with
  | zero => rfl
  | succ m ih =>
    rw [← Nat.add_assoc, course_succ, ih]
    simp only [Life.next, h]

/-- A life that has ended stays so. -/
theorem ended_of_ended {n k : Nat} {result : Except Trouble Unit}
    (h : (c.course pauses w n).stage = .ended result) (hk : n ≤ k) :
    (c.course pauses w k).stage = .ended result := by
  rw [course_of_ended h hk, h]

/-- A life that has ended is where the run ends. -/
theorem course_run_of_ended {n : Nat} {result : Except Trouble Unit}
    (h : (c.course pauses w n).stage = .ended result) : ∃ rest, c.course pauses w n =
      ⟨.ended (c.run pauses w).1, rest, (c.run pauses w).2.1, (c.run pauses w).2.2⟩ := by
  obtain ⟨m, rest, hm⟩ := c.exists_course_run pauses w
  refine ⟨rest, ?_⟩
  rw [← hm]
  rcases Nat.le_total n m with hle | hle
  · exact (course_of_ended h hle).symm
  · exact course_of_ended (by rw [hm]) hle

/-- Once a life is over, it has ended after the next step. -/
theorem ended_of_closing {n k : Nat} {result : Except Trouble Unit}
    (h : (c.course pauses w n).stage = .closing result) (hk : n < k) :
    (c.course pauses w k).stage = .ended result := by
  refine ended_of_ended ?_ (Nat.succ_le_of_lt hk)
  rw [course_succ]
  simp only [Life.next, h]

/-- Once a life is over, nothing more is done than that the responder's socket is closed. -/
theorem quiet_of_closing {n k : Nat} {result : Except Trouble Unit}
    (h : (c.course pauses w n).stage = .closing result) (hk : n ≤ k) {e : Event}
    (he : e ∈ (c.course pauses w k).doing) : e = .closeUdp ∧ k = n := by
  have hallows := Life.allows_of_mem_doing he
  obtain rfl | hlt := Nat.eq_or_lt_of_le hk
  · rw [h] at hallows
    exact ⟨Stage.allows_closing.1 hallows, rfl⟩
  · rw [ended_of_closing h hlt] at hallows
    cases hallows

/-- After a round that came to a trouble the life is over. -/
theorem closing_of_error {n : Nat} {setup : Bool} {round : Round} {trouble : Trouble}
    (hround : (c.course pauses w n).round? = some (setup, round))
    (h : (round.ending setup).1 = .error trouble) :
    (c.course pauses w (n + 1)).stage = .closing (.error trouble) := by
  rw [course_succ, Life.next_of_round? hround]
  simp only [Life.onward, Stage.after, h]

/-! ## The responder's socket -/

end Controller

/-- At this stage the responder is started, if there is one, and the life goes on. -/
def Stage.isServing : Stage → Bool
  | .responding | .steady | .woken => true
  | _ => false

namespace Life

variable {s : Life}

/-- A step that opens the responder's socket leaves it open, unless the system refuses. -/
theorem listens_of_bind {host : String} {port : Int} (h : .bindUdp host port ∈ s.doing)
    (hfault : s.world.listenFault = none) :
    s.next.controller.listens = true ∧ s.next.stage.isServing = true := by
  have hstage := Stage.allows_bindUdp.1 (allows_of_mem_doing h)
  have hstart := s.controller.startResponder_start s.world
  have hnext : s.next.world.events = (s.controller.startResponder s.world).2.2.events := by
    simp only [next, hstage]
    split <;> rename_i hrun <;> rw [hrun]
  rw [events_next] at hnext
  simp only [next, hstage]
  generalize s.controller.startResponder s.world = started at hstart hnext ⊢
  cases hstart with
  | skipped trouble =>
    rw [List.append_right_eq_self.1 hnext] at h
    cases h
  | opened _ hrunning =>
    refine ⟨?_, rfl⟩
    simp [Controller.listens, hrunning]
  | failed hfailed =>
    rw [hfault] at hfailed
    cases hfailed

/-- While the daemon serves, the responder's socket stays as it is. -/
theorem listens_next (h : s.stage.isServing = true) :
    s.next.controller.listens = s.controller.listens ∧
      (s.next.stage.isServing = true ∨ ∃ result, s.next.stage = .closing result) := by
  cases hstage : s.stage with
  | responding =>
    have hstart := s.controller.startStatusServer_start s.world
    simp only [next, hstage]
    generalize s.controller.startStatusServer s.world = started at hstart ⊢
    cases hstart with
    | skipped trouble =>
      cases trouble with
      | none => exact ⟨rfl, .inl rfl⟩
      | some trouble => exact ⟨rfl, .inr ⟨_, rfl⟩⟩
    | tried =>
      cases s.world.metricFault with
      | none => exact ⟨rfl, .inl rfl⟩
      | some error => exact ⟨rfl, .inr ⟨_, rfl⟩⟩
  | steady =>
    have hwaited := s.wait_waited
    simp only [next, hstage]
    refine ⟨hwaited.listens, hwaited.stage.imp_left ?_⟩
    intro hwoken
    rw [hwoken]
    rfl
  | woken =>
    obtain ⟨-, hresponder, -⟩ := Controller.ending_settings ⟨s.controller, s.world⟩ false
    rw [next_of_round? (round?_of_woken hstage)]
    refine ⟨?_, ?_⟩
    · simp only [onward, Controller.listens, hresponder]
    · simp only [onward, Stage.after]
      split
      · exact .inl rfl
      · exact .inr ⟨_, rfl⟩
  | fresh | found | synced | closing | ended =>
    rw [hstage] at h
    cases h

/-- The end of serving closes the responder's socket if it is open. -/
theorem doing_of_closing {result : Except Trouble Unit} (h : s.stage = .closing result)
    (hlistens : s.controller.listens = true) : s.doing = [.closeUdp] := by
  obtain ⟨-, hevents⟩ := s.controller.stopServing_end s.world
  refine doing_eq ?_
  rw [hlistens, if_pos rfl] at hevents
  simp only [next, h]
  exact hevents

end Life

namespace Controller

variable {c : Controller} {pauses : List Pause} {w : World}

/-- While the responder's socket is open, the life goes on until it is over. -/
theorem exists_closing {n : Nat} (hlistens : (c.course pauses w n).controller.listens = true)
    (hserving : (c.course pauses w n).stage.isServing = true) (m : Nat) :
    ((c.course pauses w (n + m)).controller.listens = true ∧
        (c.course pauses w (n + m)).stage.isServing = true) ∨
      ∃ k result, n < k ∧ (c.course pauses w k).stage = .closing result ∧
        (c.course pauses w k).controller.listens = true := by
  induction m with
  | zero => exact .inl ⟨hlistens, hserving⟩
  | succ m ih =>
    rcases ih with ⟨hopen, hstage⟩ | hclosing
    · obtain ⟨hstays, hnext⟩ := Life.listens_next hstage
      rw [hopen, ← course_succ] at hstays
      rw [← course_succ] at hnext
      rcases hnext with hserves | ⟨result, hclosing⟩
      · exact .inl ⟨hstays, hserves⟩
      · exact .inr ⟨n + m + 1, result, by omega, hclosing, hstays⟩
    · exact .inr hclosing

/-- A socket of the responder that is opened is closed once, at the end of the life. -/
theorem closed_once {n : Nat} {host : String} {port : Int}
    (h : .bindUdp host port ∈ (c.course pauses w n).doing)
    (hfault : (c.course pauses w n).world.listenFault = none) :
    ∃ k, n < k ∧ (c.course pauses w k).doing = [.closeUdp] ∧
      ∀ i, .closeUdp ∈ (c.course pauses w i).doing → i = k := by
  obtain ⟨hlistens, hserving⟩ := Life.listens_of_bind h hfault
  rw [← course_succ] at hlistens hserving
  -- The life ends, so it is over at some point before.
  obtain ⟨last, rest, hlast⟩ := c.exists_course_run pauses w
  have hended : (c.course pauses w last).stage.isServing = false := by rw [hlast]; rfl
  have hclosing : ∃ k result, n + 1 < k ∧ (c.course pauses w k).stage = .closing result ∧
      (c.course pauses w k).controller.listens = true := by
    by_cases hle : n + 1 ≤ last
    · obtain ⟨m, rfl⟩ := Nat.exists_eq_add_of_le hle
      rcases exists_closing hlistens hserving m with ⟨-, hserves⟩ | hclosing
      · rw [hended] at hserves
        cases hserves
      · exact hclosing
    · have hstage := ended_of_ended (by rw [hlast]) (Nat.le_of_not_le hle)
      rw [hstage] at hserving
      cases hserving
  obtain ⟨k, result, hk, hclosing, hopen⟩ := hclosing
  refine ⟨k, by omega, Life.doing_of_closing hclosing hopen, ?_⟩
  intro i hi
  obtain ⟨result', hstage⟩ := Stage.allows_closeUdp.1 (Life.allows_of_mem_doing hi)
  rcases Nat.lt_trichotomy i k with hlt | heq | hlt
  · rw [ended_of_closing hstage hlt] at hclosing
    cases hclosing
  · exact heq
  · rw [ended_of_closing hclosing hlt] at hstage
    cases hstage

end Controller

/-! ## Whole runs -/

/-- An attempt to open a socket. -/
def Event.opens : Event → Bool
  | .bindUdp .. | .bindTcp .. => true
  | _ => false

namespace Controller

/-- A run of a controller that was made of a configuration is safe. -/
structure SafeRun (config : Config) (c : Controller) (pauses : List Pause) (w : World) : Prop where
  /-- The run is the course of a life. It ends, and its events are what is done in the steps. -/
  complete : ∃ n rest, c.course pauses w n =
      ⟨.ended (c.run pauses w).1, rest, (c.run pauses w).2.1, (c.run pauses w).2.2⟩ ∧
    (∀ k, n ≤ k → (c.course pauses w k).doing = []) ∧ (c.run pauses w).2.2.events =
      w.events ++ (List.range n).flatMap fun i => (c.course pauses w i).doing
  /-- No socket is opened before the peers are found and the clock is corrected a first time. -/
  opened : ∀ i, ∀ e ∈ (c.course pauses w i).doing, e.opens = true →
    1 < i ∧ (c.init w).1 = .ok () ∧
      (c.course pauses w 1).round? = some (true, ⟨(c.init w).2.1, (c.init w).2.2⟩) ∧
      ∃ r, ((c.init w).2.1.firstSync (c.init w).2.2).1 = .ok r
  /-- A round makes all of its requests and then at most one attempt to set the clock. -/
  round : ∀ i setup round, (c.course pauses w i).round? = some (setup, round) →
    (c.course pauses w i).doing = round.requests setup ∨
      ∃ value, (c.course pauses w i).doing = round.requests setup ++ [.setTime value]
  /-- There are no requests outside of the rounds. -/
  asked : ∀ i address port timeout,
    .query address port timeout ∈ (c.course pauses w i).doing →
      (c.course pauses w i).round?.isSome = true
  /-- The clock is set only in a round, by its reference, with enough eligible samples, and unless
  that is ruled out. -/
  set : ∀ i value, .setTime value ∈ (c.course pauses w i).doing →
    config.dryRun.isSet = false ∧ ∃ setup round r g,
      (c.course pauses w i).round? = some (setup, round) ∧ round.reference setup = some r ∧
      value = round.world.now.add r.offset ∧ config.goodFilter.number? = some g ∧
      ((Number.int 1).upper g).le (.int (Quorum.eligible (round.polled setup)).length) = true
  /-- After an attempt to set the clock that fails, the responder's socket is closed at most. -/
  failed : ∀ i value fault, .setTime value ∈ (c.course pauses w i).doing →
    (c.course pauses w i).world.clockFault = some fault →
    ∀ k, i < k → ∀ e ∈ (c.course pauses w k).doing, e = .closeUdp
  /-- The run ends in the last phase. -/
  stopped : (c.run pauses w).2.1.phase = .stopped
  /-- A socket of the responder that is opened is closed exactly once. -/
  closed : ∀ i host port, .bindUdp host port ∈ (c.course pauses w i).doing →
    (c.course pauses w i).world.listenFault = none →
    ∃ k, i < k ∧ (c.course pauses w k).doing = [.closeUdp] ∧
      ∀ j, .closeUdp ∈ (c.course pauses w j).doing → j = k

variable {config : Config} {collected : Bool} {c : Controller}

/-- The run is the course of a life. -/
theorem course_complete (c : Controller) (pauses : List Pause) (w : World) :
    ∃ n rest, c.course pauses w n =
        ⟨.ended (c.run pauses w).1, rest, (c.run pauses w).2.1, (c.run pauses w).2.2⟩ ∧
      (∀ k, n ≤ k → (c.course pauses w k).doing = []) ∧ (c.run pauses w).2.2.events =
        w.events ++ (List.range n).flatMap fun i => (c.course pauses w i).doing := by
  obtain ⟨n, rest, hn⟩ := c.exists_course_run pauses w
  refine ⟨n, rest, hn, ?_, ?_⟩
  · intro k hk
    have hended := ended_of_ended (by rw [hn]) hk
    refine Life.doing_eq ?_
    simp only [Life.next, hended, List.append_nil]
  · have hevents := c.events_course pauses w n
    rwa [hn] at hevents

/-- The round of an attempt to set the clock. -/
theorem round_of_setTime {pauses : List Pause} {w : World} {n : Nat} {value : Binary64}
    (h : .setTime value ∈ (c.course pauses w n).doing) :
    ∃ setup round attempts, (c.course pauses w n).round? = some (setup, round) ∧
      .setTime value ∈ attempts ∧
      round.ClockEnd setup (round.ending setup).1 (round.ending setup).2.1.clock attempts := by
  have hround : ∃ setup round, (c.course pauses w n).round? = some (setup, round) := by
    rcases Stage.allows_setTime.1 (Life.allows_of_mem_doing h) with hstage | hstage
    · exact ⟨_, _, Life.round?_of_found hstage⟩
    · exact ⟨_, _, Life.round?_of_woken hstage⟩
  obtain ⟨setup, round, hround⟩ := hround
  obtain ⟨attempts, hevents, hclock⟩ := Life.events_of_round? hround
  rw [Life.doing_eq hevents] at h
  refine ⟨setup, round, attempts, hround, ?_, hclock⟩
  rcases List.mem_append.1 h with hrequest | hattempt
  · obtain ⟨_, _, _, heq⟩ := Round.query_of_mem_requests hrequest
    cases heq
  · exact hattempt

/-- A socket is opened only at a stage that comes after the first round. -/
theorem first_of_opens {pauses : List Pause} {w : World} {n : Nat} {e : Event}
    (he : e ∈ (c.course pauses w n).doing) (hopens : e.opens = true) :
    1 < n ∧ (c.init w).1 = .ok () ∧
      (c.course pauses w 1).round? = some (true, ⟨(c.init w).2.1, (c.init w).2.2⟩) ∧
      ∃ r, ((c.init w).2.1.firstSync (c.init w).2.2).1 = .ok r := by
  have hstage : (c.course pauses w n).stage.isSynced = true := by
    have hallows := Life.allows_of_mem_doing he
    cases e with
    | bindUdp host port =>
      rw [Stage.allows_bindUdp.1 hallows]
      rfl
    | bindTcp host port =>
      rw [Stage.allows_bindTcp.1 hallows]
      rfl
    | query | setTime | send | closeUdp | wait => cases hopens
  obtain ⟨hlt, hinit, hfirst⟩ := (began_course c pauses w n).synced hstage
  refine ⟨hlt, hinit, ?_, hfirst⟩
  rw [course_succ, course_zero]
  simp only [Life.next, Life.onward, hinit, Stage.after, Life.round?]

/-- A round makes all of its requests and then at most one attempt to set the clock. -/
theorem doing_of_round? {s : Life} {setup : Bool} {round : Round}
    (h : s.round? = some (setup, round)) : s.doing = round.requests setup ∨
      ∃ value, s.doing = round.requests setup ++ [.setTime value] := by
  obtain ⟨attempts, hevents, hclock⟩ := Life.events_of_round? h
  rw [Life.doing_eq hevents]
  cases hattempts : attempts with
  | nil => exact .inl (List.append_nil _)
  | cons e rest =>
    have hmem : e ∈ attempts := by rw [hattempts]; exact List.mem_cons_self
    obtain ⟨r, -, -, -, heq⟩ := hclock.of_mem hmem
    rw [← hattempts, heq]
    exact .inr ⟨_, rfl⟩

/-- The clock is set by the reference of a round with enough eligible samples, unless that is ruled
out. -/
theorem reference_of_setTime (h : make? config collected = .ok c) {pauses : List Pause} {w : World}
    {n : Nat} {value : Binary64} (hset : .setTime value ∈ (c.course pauses w n).doing) :
    config.dryRun.isSet = false ∧ ∃ setup round r g,
      (c.course pauses w n).round? = some (setup, round) ∧ round.reference setup = some r ∧
      value = round.world.now.add r.offset ∧ config.goodFilter.number? = some g ∧
      ((Number.int 1).upper g).le (.int (Quorum.eligible (round.polled setup)).length) = true := by
  obtain ⟨⟨g, hg, hquorum⟩, hmade, -⟩ := takesOver_of_make h
  obtain ⟨setup, round, attempts, hround, hattempt, hclock⟩ := round_of_setTime hset
  obtain ⟨r, hreference, -, hnot, rfl⟩ := hclock.of_mem hattempt
  have hvalue := Event.setTime.inj (List.mem_singleton.1 hattempt)
  have hsettings := c.settings_course pauses w n
  obtain ⟨rfl, -⟩ := Life.eq_of_round? hround
  rw [hsettings.dryRun, hmade] at hnot
  refine ⟨hnot, setup, _, r, g, hround, hreference, hvalue, hg, ?_⟩
  rw [Round.reference, hsettings.quorum, hquorum] at hreference
  exact Quorum.le_of_choose hreference

/-- After an attempt to set the clock that fails, the responder's socket is closed at most. -/
theorem quiet_of_failed {pauses : List Pause} {w : World} {n k : Nat} {value : Binary64}
    {fault : ClockFault} (hset : .setTime value ∈ (c.course pauses w n).doing)
    (hfault : (c.course pauses w n).world.clockFault = some fault) (hk : n < k) {e : Event}
    (he : e ∈ (c.course pauses w k).doing) : e = .closeUdp := by
  obtain ⟨setup, round, attempts, hround, hattempt, hclock⟩ := round_of_setTime hset
  obtain ⟨trouble, herror⟩ := hclock.failed_of_mem hattempt
    ((congrArg (·.world.clockFault) (Life.eq_of_round? hround).1).trans hfault)
  exact (quiet_of_closing (closing_of_error hround herror) hk he).1

/-- Every run of a new controller is safe. -/
theorem safeRun_of_make (h : make? config collected = .ok c) (pauses : List Pause) (w : World) :
    SafeRun config c pauses w := by
  refine ⟨course_complete c pauses w, ?_, ?_, ?_, ?_, ?_, phase_run c pauses w, ?_⟩
  · intro i e he hopens
    exact first_of_opens he hopens
  · intro i setup round hround
    exact doing_of_round? hround
  · intro i address port timeout he
    rcases Stage.allows_query.1 (Life.allows_of_mem_doing he) with hstage | hstage
    · rw [Life.round?_of_found hstage]
      rfl
    · rw [Life.round?_of_woken hstage]
      rfl
  · intro i value he
    exact reference_of_setTime h he
  · intro i value fault he hfault k hk e hmem
    exact quiet_of_failed he hfault hk hmem
  · intro i host port he hfault
    exact closed_once he hfault

/-- A configuration of one peer and a responder. -/
def servingPeer : Config := { onePeer (.int 1) with listen := .text "127.0.0.1:8123" }

/-- The new controller of this configuration. -/
def servingMade : Controller :=
  (make? servingPeer false).toOption.get (by decide +kernel)

/-- The new controller is what the configuration comes to. -/
theorem servingMade_eq : make? servingPeer false = .ok servingMade :=
  eq_ok_of_toOption (Option.some_get _).symm

/-- The daemon of one peer corrects its clock, opens the responder's socket, waits, corrects its
clock once more, and closes the socket when it is asked to stop. -/
theorem safeRun_of_servingPeer : SafeRun servingPeer servingMade [{}] oneServer ∧
    (servingMade.run [{}] oneServer).2.2.events = [
      .query "192.0.2.1" 123 (.real (.ofInt 2)),
      .setTime (oneServer.now.add (.ofDecimal false 1 (-3))), .bindUdp "127.0.0.1" 8123,
      .wait (.ofNat 16), .query "192.0.2.1" 123 (.real (.ofInt 2)),
      .setTime ((oneServer.now.add (.ofDecimal false 1 (-3))).add (.ofDecimal false 1 (-3))),
      .wait (.ofNat 16), .closeUdp] := by
  refine ⟨safeRun_of_make servingMade_eq [{}] oneServer, ?_⟩
  decide +kernel

end Controller

end Concord
