import Concord.Proofs.ServedState

/-!
# The guard before the clock

Between the samples of the peers and the clock stands one comparison: unless corrections are forced,
an offset that is larger in size than the panic threshold is refused. Not-a-number is not larger
than anything, so it passes (`Guard.Passes`).

The main statement is `guarded_of_make`: in every run without force a correction is accepted exactly
when the offset of its reference passes. With every other one the round fails, nothing is done to
the clock, and the life is over.
-/

namespace Concord

/-- What is not larger than a limit is at most the limit, or it is not-a-number. -/
theorem Binary64.lt_eq_false_iff {limit x : Binary64} (hlimit : limit.isNaN = false) :
    limit.lt x = false ↔ x.le limit = true ∨ x.isNaN = true := by
  cases hx : x.isNaN with
  | true => simp [lt, hx]
  | false => simp [lt, le, hx, hlimit]

namespace Guard

/-- The guard lets an offset pass: its size is at most the panic threshold, or it is
not-a-number. -/
def Passes (offset : Binary64) : Prop :=
  offset.abs.le (.ofInt 1000) = true ∨ offset.isNaN = true

instance (offset : Binary64) : Decidable (Passes offset) :=
  inferInstanceAs (Decidable (_ ∨ _))

/-- The guard compares the size of an offset with the panic threshold. -/
theorem passes_iff {offset : Binary64} :
    Passes offset ↔ (Binary64.ofInt 1000).lt offset.abs = false := by
  have hlimit : (Binary64.ofInt 1000).isNaN = false := by decide +kernel
  rw [Binary64.lt_eq_false_iff hlimit, Binary64.isNaN_abs, Passes]

/-- The correction by the reference of the round that begins at a point of a life is accepted. The
clock is attempted to be set forward by the offset, unless it is never touched, and the correction
is counted unless this attempt fails. -/
structure Accepted (config : Config) (s : Life) (setup : Bool) (round : Round) (r : Reference) :
    Prop where
  doing : s.doing = round.requests setup ++
    if config.dryRun.isSet then [] else [.setTime (round.world.now.add r.offset)]
  counted : config.dryRun.isSet = true ∨ round.world.clockFault = none →
    s.next.controller.clock = s.controller.clock.corrected r.offset (Round.leap setup r)

/-- What a round comes to when the correction by its reference is refused for its size. -/
def trouble (r : Reference) : Trouble :=
  .failure (.clockWrite r.offset "offset exceeds panic threshold of 1000.0s")

/-- The correction by the reference of the round that begins at a point of a life is refused for its
size. Nothing is done to the clock, and the life is over. -/
structure Refused (s : Life) (setup : Bool) (round : Round) (r : Reference) : Prop where
  result : (round.ending setup).1 = .error (trouble r)
  doing : ∀ value, .setTime value ∉ s.doing
  clock : s.next.controller.clock = s.controller.clock
  closing : s.next.stage = .closing (.error (trouble r))

end Guard

open Guard

namespace Controller

/-- The guard decides on every correction of a run. -/
structure Guarded (config : Config) (c : Controller) (pauses : List Pause) (w : World) : Prop where
  accepted : ∀ n setup round r, (c.course pauses w n).round? = some (setup, round) →
    round.reference setup = some r → Passes r.offset →
      Guard.Accepted config (c.course pauses w n) setup round r
  refused : ∀ n setup round r, (c.course pauses w n).round? = some (setup, round) →
    round.reference setup = some r → ¬ Passes r.offset →
      Guard.Refused (c.course pauses w n) setup round r
  /-- No clock is set but by a reference that passes. -/
  set : ∀ n value, .setTime value ∈ (c.course pauses w n).doing → ∃ setup round r,
    (c.course pauses w n).round? = some (setup, round) ∧ round.reference setup = some r ∧
      value = round.world.now.add r.offset ∧ Passes r.offset
  /-- No correction is counted but by a reference that passes. -/
  counted : ∀ n, (c.course pauses w (n + 1)).controller.clock.corrections ≠
      (c.course pauses w n).controller.clock.corrections → ∃ setup round r,
    (c.course pauses w n).round? = some (setup, round) ∧ round.reference setup = some r ∧
      Passes r.offset

variable {config : Config} {collected : Bool} {c : Controller} {pauses : List Pause} {w : World}

/-- A correction is counted in the round that makes it. -/
theorem round_of_corrections {n : Nat}
    (h : (c.course pauses w (n + 1)).controller.clock.corrections ≠
      (c.course pauses w n).controller.clock.corrections) :
    ∃ setup round r, (c.course pauses w n).round? = some (setup, round) ∧
      round.reference setup = some r ∧ round.refusal? setup r = none := by
  rw [course_succ] at h
  obtain ⟨-, heq⟩ | ⟨setup, round, hround⟩ | ⟨_, _, _, _, heq⟩ := (c.course pauses w n).next_cases
  · -- Finding the peers leaves the clock alone.
    rw [heq] at h
    obtain ⟨_, _, hinit, -⟩ | ⟨_, _, hinit⟩ | ⟨_, _, hinit⟩ :=
      (c.course pauses w n).controller.init_end (c.course pauses w n).world <;>
      rw [hinit] at h <;> exact absurd rfl h
  · obtain ⟨attempts, -, hclock⟩ := Life.events_of_round? hround
    rw [Life.next_of_round? hround] at h
    obtain ⟨rfl, -⟩ := Life.eq_of_round? hround
    obtain ⟨r, hreference, hrefusal⟩ := hclock.of_corrections_ne h
    exact ⟨setup, _, r, hround, hreference, hrefusal⟩
  · rw [heq] at h
    exact absurd rfl h

section

variable {n : Nat} {setup : Bool} {round : Round} {r : Reference}
  (h : make? config collected = .ok c)
  (hround : (c.course pauses w n).round? = some (setup, round))
  (hreference : round.reference setup = some r)

include h hround hreference

/-- Without force, a correction is refused exactly when its offset does not pass. -/
theorem refusal?_of_force (hforce : config.forceUpdate.isSet = false) :
    round.refusal? setup r =
      if Passes r.offset then none else some "offset exceeds panic threshold of 1000.0s" := by
  rw [refusal?_of_make h hround hreference, hforce]
  cases hlt : (Binary64.ofInt 1000).lt r.offset.abs with
  | true =>
    have hnot : ¬ Passes r.offset := by simp [passes_iff, hlt]
    simp [hnot]
  | false => simp [passes_iff.2 hlt]

/-- Without force, the offset of a correction that is not refused passes. -/
theorem passes_of_no_refusal (hforce : config.forceUpdate.isSet = false)
    (hrefusal : round.refusal? setup r = none) : Passes r.offset := by
  by_contra hnot
  rw [refusal?_of_force h hround hreference hforce, if_neg hnot] at hrefusal
  cases hrefusal

/-- A correction that is not refused is accepted. -/
theorem accepted_of_no_refusal (hrefusal : round.refusal? setup r = none) :
    Guard.Accepted config (c.course pauses w n) setup round r := by
  obtain ⟨attempts, hevents, hclock⟩ := Life.events_of_round? hround
  obtain ⟨hattempts, hcounted⟩ := hclock.of_no_refusal hreference hrefusal
  have hnext := Life.next_of_round? hround
  have hdry := (c.settings_course pauses w n).dryRun
  rw [(takesOver_of_make h).clock] at hdry
  obtain ⟨rfl, -⟩ := Life.eq_of_round? hround
  rw [hdry] at hattempts hcounted
  refine ⟨by rw [Life.doing_eq hevents, hattempts], fun hsettable => ?_⟩
  rw [hnext]
  exact hcounted hsettable

omit h in
/-- A correction that is refused for its size ends the life and leaves the clock alone. -/
theorem refused_of_refusal
    (hrefusal : round.refusal? setup r = some "offset exceeds panic threshold of 1000.0s") :
    Guard.Refused (c.course pauses w n) setup round r := by
  obtain ⟨attempts, hevents, hclock⟩ := Life.events_of_round? hround
  obtain ⟨hresult, hsame, rfl⟩ := hclock.of_refusal hreference hrefusal
  refine ⟨hresult, ?_, ?_, ?_⟩
  · intro value hvalue
    rw [Life.doing_eq hevents, List.append_nil] at hvalue
    obtain ⟨_, _, _, heq⟩ := Round.query_of_mem_requests hvalue
    cases heq
  · rw [Life.next_of_round? hround]
    obtain ⟨rfl, -⟩ := Life.eq_of_round? hround
    exact hsame
  · rw [← course_succ]
    exact closing_of_error hround hresult

end

/-- The guard decides on every correction of every run without force. -/
theorem guarded_of_make (h : make? config collected = .ok c)
    (hforce : config.forceUpdate.isSet = false) (pauses : List Pause) (w : World) :
    Guarded config c pauses w := by
  refine ⟨?_, ?_, ?_, ?_⟩
  · intro n setup round r hround hreference hpass
    have hrefusal := refusal?_of_force h hround hreference hforce
    rw [if_pos hpass] at hrefusal
    exact accepted_of_no_refusal h hround hreference hrefusal
  · intro n setup round r hround hreference hpass
    have hrefusal := refusal?_of_force h hround hreference hforce
    rw [if_neg hpass] at hrefusal
    exact refused_of_refusal hround hreference hrefusal
  · intro n value hvalue
    obtain ⟨setup, round, attempts, hround, hattempt, hclock⟩ := round_of_setTime hvalue
    obtain ⟨r, hreference, hrefusal, -, rfl⟩ := hclock.of_mem hattempt
    exact ⟨setup, round, r, hround, hreference, Event.setTime.inj (List.mem_singleton.1 hattempt),
      passes_of_no_refusal h hround hreference hforce hrefusal⟩
  · intro n hne
    obtain ⟨setup, round, r, hround, hreference, hrefusal⟩ := round_of_corrections hne
    exact ⟨setup, round, r, hround, hreference,
      passes_of_no_refusal h hround hreference hforce hrefusal⟩

/-- A world of one server, which answers with the given offset after its first answer. -/
def oneServerThen (offset : Binary64) : World :=
  { oneServer with network := [("192.0.2.1",
    { items := [.sample ⟨.ofDecimal false 1 (-3), 2, 0, .zero, .zero, .zero, 0, .zero⟩]
      default := .sample ⟨offset, 2, 0, .zero, .zero, .zero, 0, .zero⟩ })] }

/-- The second round of the daemon of one peer has a reference with the given offset. -/
theorem reference_oneServerThen (offset : Binary64)
    (h : ((servingMade.course [{}] (oneServerThen offset) 5).round?.bind fun begun =>
      (begun.2.reference begun.1).map fun r => (begun.1, r.offset)) = some (false, offset)) :
    ∃ round r, (servingMade.course [{}] (oneServerThen offset) 5).round? = some (false, round) ∧
      round.reference false = some r ∧ r.offset = offset := by
  obtain ⟨⟨setup, round⟩, hround, hreference⟩ := Option.bind_eq_some_iff.1 h
  obtain ⟨r, hr, heq⟩ := Option.map_eq_some_iff.1 hreference
  cases heq
  exact ⟨round, r, hround, hr, rfl⟩

/-- An infinite offset ends the life of the daemon of one peer. -/
theorem refused_of_infiniteOffset : ∃ round r,
    (servingMade.course [{}] (oneServerThen (.infinite true)) 5).round? = some (false, round) ∧
      r.offset = .infinite true ∧
      Guard.Refused (servingMade.course [{}] (oneServerThen (.infinite true)) 5) false round r := by
  obtain ⟨round, r, hround, hreference, hoffset⟩ :=
    reference_oneServerThen (.infinite true) (by decide +kernel)
  have hguarded := guarded_of_make servingMade_eq (by decide +kernel) [{}]
    (oneServerThen (.infinite true))
  refine ⟨round, r, hround, hoffset, hguarded.refused 5 false round r hround hreference ?_⟩
  rw [hoffset]
  decide +kernel

/-- An offset that is not-a-number is not at most the panic threshold in size, and the clock is set
by it. -/
theorem set_by_undefinedOffset : make? servingPeer false = .ok servingMade ∧
    servingPeer.forceUpdate.isSet = false ∧ ∃ round r,
      (servingMade.course [{}] (oneServerThen .nan) 5).round? = some (false, round) ∧
      round.reference false = some r ∧ r.offset.abs.le (.ofInt 1000) = false ∧
      .setTime (round.world.now.add r.offset) ∈
        (servingMade.course [{}] (oneServerThen .nan) 5).doing ∧
      (servingMade.course [{}] (oneServerThen .nan) 6).controller.clock.corrections = 2 := by
  refine ⟨servingMade_eq, by decide +kernel, ?_⟩
  obtain ⟨round, r, hround, hreference, hoffset⟩ :=
    reference_oneServerThen .nan (by decide +kernel)
  obtain ⟨rfl, -⟩ := Life.eq_of_round? hround
  refine ⟨_, r, hround, hreference, ?_, ?_, by decide +kernel⟩
  · rw [hoffset]
    rfl
  · rw [hoffset]
    decide +kernel

end Controller

end Concord
