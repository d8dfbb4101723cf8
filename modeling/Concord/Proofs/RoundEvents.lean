import Concord.Proofs.Freshness
import Concord.Proofs.PeerIsolation

/-!
# The clock in a round

Seen from the world, a round of either kind is its requests, all of them, and after them at most one
attempt to set the clock. Whether there is one, and what follows if it fails, is said by
`Round.ClockEnd`. The main statement is `clock_end`: every round, the first one or a later one, ends
in one of these ways.
-/

namespace Concord

namespace Controller

/-- Settling a round makes nothing happen in the world and leaves the clock alone. It ends with the
reference or in a fault. -/
theorem settle_end (c : Controller) (r : Reference) (w : World) :
    (c.settle r w).2.2.events = w.events ∧ (c.settle r w).2.1.clock = c.clock ∧
      ((c.settle r w).1 = .ok (some r) ∨ ∃ fault, (c.settle r w).1 = .error (.fault fault)) := by
  have hevents : (c.pace.noteNext (some r) w).events = w.events := by
    simp only [Pace.noteNext]
    split <;> rfl
  simp only [settle, adapt]
  cases c.pace.next c.peers (some r) with
  | error fault => exact ⟨rfl, rfl, .inr ⟨fault, rfl⟩⟩
  | ok paced =>
    obtain ⟨sleep, peers⟩ := paced
    simp only
    split <;> rename_i hpublish
    · obtain ⟨_, _, _, _, _, _, rfl⟩ := publish_frame hpublish
      exact ⟨hevents, rfl, .inr ⟨_, rfl⟩⟩
    · obtain ⟨_, _, _, _, _, _, rfl⟩ := publish_frame hpublish
      exact ⟨hevents, rfl, .inl rfl⟩

end Controller

namespace Round

/-- How a round ends: the first one, or a later one. -/
def ending (round : Round) (setup : Bool) : Step (Option Reference) :=
  if setup then
    ((round.controller.firstSync round.world).1.map some,
      (round.controller.firstSync round.world).2)
  else round.controller.cycle round.world

/-- The first round has a reference as its result when it ends with it. -/
theorem ending_true_eq_ok {round : Round} {r : Reference} :
    (round.ending true).1 = .ok (some r) ↔
      (round.controller.firstSync round.world).1 = .ok r := by
  simp only [ending, if_true]
  cases (round.controller.firstSync round.world).1 <;> simp [Except.map]

/-- The requests of a round, in the order of the peers. -/
def requests (round : Round) (setup : Bool) : List Event :=
  (List.zipWith Peer.queries round.controller.peers (round.outcomes setup)).flatten

/-- The reference of a round, if there is one. -/
def reference (round : Round) (setup : Bool) : Option Reference :=
  Quorum.choose (round.polled setup) round.controller.quorum

/-- The controller that polls in a round. The first round enters a phase of its own. -/
def entered (round : Round) (setup : Bool) : Controller :=
  { round.controller with phase := if setup then .firstSync else round.controller.phase }

/-- The leap indicator that goes with a correction. The first round leaves leap seconds to the later
ones. -/
def leap (setup : Bool) (r : Reference) : Int := if setup then 0 else r.sample.leap

/-- Why a round refuses to correct the clock by a reference, if so. -/
def refusal? (round : Round) (setup : Bool) (r : Reference) : Option String :=
  round.controller.clock.refusal? r.offset (leap setup r)
    round.controller.config.forceUpdate.isSet

/-- The ways in which a round treats the clock: its result, the clock that it leaves, and what it
does to the world after its requests. -/
inductive ClockEnd (round : Round) (setup : Bool) :
    Except Trouble (Option Reference) → Clock → List Event → Prop where
  /-- There is no reference. -/
  | noReference {result : Except Trouble (Option Reference)} : round.reference setup = none →
      (∀ r, result ≠ .ok (some r)) → ClockEnd round setup result round.controller.clock []
  /-- The correction is refused. -/
  | refused {r : Reference} {reason : String} : round.reference setup = some r →
      round.refusal? setup r = some reason →
      ClockEnd round setup (.error (.failure (.clockWrite r.offset reason)))
        round.controller.clock []
  /-- The system does not let the clock be set. -/
  | failed {r : Reference} {fault : ClockFault} : round.reference setup = some r →
      round.refusal? setup r = none → round.controller.clock.dryRun = false →
      round.world.clockFault = some fault →
      ClockEnd round setup (.error (.failure (.clockWrite r.offset fault.message)))
        { round.controller.clock with pendingLeap := leap setup r }
        [.setTime (round.world.now.add r.offset)]
  /-- The clock is never touched, and the correction counts as done. -/
  | reported {r : Reference} {result : Except Trouble (Option Reference)} :
      round.reference setup = some r → round.refusal? setup r = none →
      round.controller.clock.dryRun = true →
      (result = .ok (some r) ∨ ∃ fault, result = .error (.fault fault)) →
      ClockEnd round setup result
        (round.controller.clock.corrected r.offset (leap setup r)) []
  /-- The clock is set forward by the offset of the reference. -/
  | done {r : Reference} {result : Except Trouble (Option Reference)} :
      round.reference setup = some r → round.refusal? setup r = none →
      round.controller.clock.dryRun = false → round.world.clockFault = none →
      (result = .ok (some r) ∨ ∃ fault, result = .error (.fault fault)) →
      ClockEnd round setup result
        (round.controller.clock.corrected r.offset (leap setup r))
        [.setTime (round.world.now.add r.offset)]

section

variable {round : Round} {setup : Bool}

/-- Polling chooses the reference, makes the requests, and leaves the clocks alone. -/
theorem poll_end (round : Round) (setup : Bool) :
    ∃ w, (round.entered setup).poll setup round.world = (round.reference setup,
        { round.entered setup with peers := round.polled setup }, w) ∧
      w.events = round.world.events ++ round.requests setup ∧ w.now = round.world.now ∧
      w.clockFault = round.world.clockFault := by
  -- The phase has no part in polling.
  have hevents := events_poll ⟨round.entered setup, round.world⟩ setup
  have hrest := (round.entered setup).leavesRest_poll setup round.world
  obtain ⟨w, hpoll⟩ := (round.entered setup).poll_eq setup round.world
  rw [hpoll] at hevents hrest
  exact ⟨w, hpoll, hevents, hrest.now, hrest.clockFault⟩

/-- A round treats the clock as its correction does. If that fails, so does the round. -/
theorem ClockEnd.of_correction {r : Reference} {w : World}
    {ended : Option Failure × Clock × World} {result : Except Trouble (Option Reference)}
    (hreference : round.reference setup = some r) (hnow : w.now = round.world.now)
    (hfault : w.clockFault = round.world.clockFault)
    (h : round.controller.clock.Correction r.offset (leap setup r)
      round.controller.config.forceUpdate.isSet w ended)
    (hfailed : ∀ failure, ended.1 = some failure → result = .error (.failure failure))
    (hdone : ended.1 = none → result = .ok (some r) ∨ ∃ fault, result = .error (.fault fault)) :
    ∃ attempts, ended.2.2.events = w.events ++ attempts ∧
      ClockEnd round setup result ended.2.1 attempts := by
  cases h with
  | refused hrefusal =>
    obtain rfl := hfailed _ rfl
    exact ⟨[], (List.append_nil _).symm, .refused hreference hrefusal⟩
  | reported hrefusal hdry _ hevents =>
    exact ⟨[], hevents.trans (List.append_nil _).symm,
      .reported hreference hrefusal hdry (hdone rfl)⟩
  | failed hrefusal hdry hrefused hevents =>
    obtain rfl := hfailed _ rfl
    rw [hnow] at hevents
    rw [hfault] at hrefused
    exact ⟨_, hevents, .failed hreference hrefusal hdry hrefused⟩
  | done hrefusal hdry hsettable _ hevents =>
    rw [hnow] at hevents
    rw [hfault] at hsettable
    exact ⟨_, hevents, .done hreference hrefusal hdry hsettable (hdone rfl)⟩

end

/-- What is left of a round once its correction came to an end: it fails with that or ends with the
reference or in a fault, and nothing more happens to the clock and the world. -/
structure EndsWith (r : Reference) (ended : Option Failure × Clock × World)
    (finished : Step (Option Reference)) : Prop where
  clock : finished.2.1.clock = ended.2.1
  events : finished.2.2.events = ended.2.2.events
  failed : ∀ failure, ended.1 = some failure → finished.1 = .error (.failure failure)
  done : ended.1 = none → finished.1 = .ok (some r) ∨ ∃ fault, finished.1 = .error (.fault fault)

/-- A later round with a reference ends with its correction. -/
theorem endsWith_cycle {round : Round} {r : Reference} {w : World}
    {ended : Option Failure × Clock × World}
    (hpoll : round.controller.poll false round.world = (some r,
      { round.controller with peers := round.polled false }, w))
    (happly : round.controller.clock.apply r.offset r.sample.leap
      round.controller.config.forceUpdate.isSet w = ended) :
    EndsWith r ended (round.controller.cycle round.world) := by
  obtain ⟨failure, clock, w'⟩ := ended
  have hcorrect : { round.controller with
      peers := round.polled false, cycles := round.controller.cycles + 1 }.correct r
        r.sample.leap w = (failure, { round.controller with
      peers := round.polled false, cycles := round.controller.cycles + 1, clock }, w') := by
    simp only [Controller.correct, happly]
  cases failure with
  | some failure =>
    refine ⟨?_, ?_, ?_, ?_⟩ <;> simp [Controller.cycle, hpoll, hcorrect, World.events_note]
  | none =>
    have hsettle := { round.controller with
      peers := round.polled false, cycles := round.controller.cycles + 1, clock }.settle_end r w'
    have hcycle : round.controller.cycle round.world = { round.controller with
        peers := round.polled false, cycles := round.controller.cycles + 1,
        clock }.settle r w' := by
      simp only [Controller.cycle, hpoll, hcorrect]
    rw [hcycle]
    exact ⟨hsettle.2.1, hsettle.1, by simp, fun _ => hsettle.2.2⟩

/-- The first round with a reference ends with its correction. -/
theorem endsWith_firstSync {round : Round} {r : Reference} {w : World}
    {ended : Option Failure × Clock × World}
    (hpoll : { round.controller with phase := .firstSync }.poll true round.world = (some r,
      { round.controller with phase := .firstSync, peers := round.polled true }, w))
    (happly : round.controller.clock.apply r.offset 0
      round.controller.config.forceUpdate.isSet w = ended) :
    EndsWith r ended (round.ending true) := by
  obtain ⟨failure, clock, w'⟩ := ended
  have hcorrect : { round.controller with
      phase := .firstSync, peers := round.polled true }.correct r 0 w =
      (failure, { round.controller with
        phase := .firstSync, peers := round.polled true, clock }, w') := by
    simp only [Controller.correct, happly]
  simp only [ending, if_true]
  cases failure with
  | some failure =>
    refine ⟨?_, ?_, ?_, ?_⟩ <;>
      simp [Controller.firstSync, hpoll, hcorrect, World.events_note, Except.map]
  | none =>
    rcases hpublish : { round.controller with
      phase := .firstSync, peers := round.polled true, clock }.publish r w' with ⟨fault, d⟩
    obtain ⟨_, _, _, _, _, _, rfl⟩ := Controller.publish_frame hpublish
    cases fault with
    | some fault =>
      refine ⟨?_, ?_, ?_, ?_⟩ <;>
        simp [Controller.firstSync, hpoll, hcorrect, hpublish, Except.map]
    | none =>
      refine ⟨?_, ?_, ?_, ?_⟩ <;>
        simp [Controller.firstSync, hpoll, hcorrect, hpublish, World.events_note, Except.map]

/-- A round with a reference ends with its correction. -/
theorem endsWith_ending {round : Round} {setup : Bool} {r : Reference} {w : World}
    (hpoll : (round.entered setup).poll setup round.world = (some r,
      { round.entered setup with peers := round.polled setup }, w)) :
    EndsWith r (round.controller.clock.apply r.offset (leap setup r)
      round.controller.config.forceUpdate.isSet w) (round.ending setup) := by
  cases setup with
  | true => exact endsWith_firstSync hpoll rfl
  | false => exact endsWith_cycle hpoll rfl

/-- A round without a reference leaves the clock alone and makes nothing more happen. -/
theorem ending_of_none {round : Round} {setup : Bool} {w : World}
    (hpoll : (round.entered setup).poll setup round.world = (none,
      { round.entered setup with peers := round.polled setup }, w)) :
    (round.ending setup).2.2.events = w.events ∧
      (round.ending setup).2.1.clock = round.controller.clock ∧
      ∀ r, (round.ending setup).1 ≠ .ok (some r) := by
  cases setup with
  | true =>
    have hpoll : { round.controller with phase := .firstSync }.poll true round.world = (none,
      { round.controller with phase := .firstSync, peers := round.polled true }, w) := hpoll
    simp [ending, Controller.firstSync, hpoll, Except.map]
  | false =>
    have hpoll : round.controller.poll false round.world = (none,
      { round.controller with peers := round.polled false }, w) := hpoll
    simp [ending, Controller.cycle, hpoll, World.events_note]

/-- Every round makes its requests, treats the clock in one of these ways, and does nothing else to
the world. -/
theorem clock_end (round : Round) (setup : Bool) :
    ∃ attempts, (round.ending setup).2.2.events =
        round.world.events ++ round.requests setup ++ attempts ∧
      ClockEnd round setup (round.ending setup).1 (round.ending setup).2.1.clock attempts := by
  obtain ⟨w, hpoll, hevents, hnow, hfault⟩ := round.poll_end setup
  rw [← hevents]
  cases hreference : round.reference setup with
  | none =>
    rw [hreference] at hpoll
    obtain ⟨hsame, hclock, hresult⟩ := ending_of_none hpoll
    rw [hclock]
    exact ⟨[], hsame.trans (List.append_nil _).symm, .noReference hreference hresult⟩
  | some r =>
    rw [hreference] at hpoll
    have hends := endsWith_ending hpoll
    rw [hends.clock, hends.events]
    exact ClockEnd.of_correction hreference hnow hfault
      (round.controller.clock.apply_correction r.offset (leap setup r) _ w) hends.failed hends.done

/-- The requests of a round are nothing else. -/
theorem query_of_mem_requests {round : Round} {setup : Bool} {e : Event}
    (h : e ∈ round.requests setup) : ∃ address port timeout, e = .query address port timeout := by
  obtain ⟨queries, hqueries, he⟩ := List.mem_flatten.1 h
  rw [List.mem_iff_getElem?] at hqueries
  obtain ⟨i, hi⟩ := hqueries
  obtain ⟨p, own, -, -, rfl⟩ := List.getElem?_zipWith_eq_some.1 hi
  exact ⟨p.address, p.port, p.timeout, List.eq_of_mem_replicate he⟩

namespace ClockEnd

variable {round : Round} {setup : Bool} {result : Except Trouble (Option Reference)}
  {clock : Clock} {attempts : List Event}

/-- An attempt to set the clock is made by a reference that is not refused, with the clock that it
gives, unless the clock is never touched. It is the only one. -/
theorem of_mem (h : ClockEnd round setup result clock attempts) {e : Event} (he : e ∈ attempts) :
    ∃ r, round.reference setup = some r ∧ round.refusal? setup r = none ∧
      round.controller.clock.dryRun = false ∧
      attempts = [.setTime (round.world.now.add r.offset)] := by
  cases h with
  | noReference | refused | reported => cases he
  | failed hreference hrefusal hdry | done hreference hrefusal hdry =>
    exact ⟨_, hreference, hrefusal, hdry, rfl⟩

/-- A round fails with its attempt to set the clock. -/
theorem failed_of_mem (h : ClockEnd round setup result clock attempts) {e : Event}
    (he : e ∈ attempts) {fault : ClockFault} (hfault : round.world.clockFault = some fault) :
    ∃ trouble, result = .error trouble := by
  cases h with
  | noReference | refused | reported => cases he
  | failed => exact ⟨_, rfl⟩
  | done hreference hrefusal hdry hsettable =>
    rw [hsettable] at hfault
    cases hfault

/-- A round whose reference is refused fails with that, leaves the clock alone, and makes no attempt
to set it. -/
theorem of_refusal (h : ClockEnd round setup result clock attempts) {r : Reference}
    {reason : String} (hreference : round.reference setup = some r)
    (hrefusal : round.refusal? setup r = some reason) :
    result = .error (.failure (.clockWrite r.offset reason)) ∧ clock = round.controller.clock ∧
      attempts = [] := by
  cases h with
  | noReference hnone =>
    rw [hreference] at hnone
    cases hnone
  | refused hreference' hrefusal' =>
    obtain rfl := Option.some.inj (hreference.symm.trans hreference')
    obtain rfl := Option.some.inj (hrefusal.symm.trans hrefusal')
    exact ⟨rfl, rfl, rfl⟩
  | failed hreference' hrefusal' | reported hreference' hrefusal' | done hreference' hrefusal' =>
    obtain rfl := Option.some.inj (hreference.symm.trans hreference')
    rw [hrefusal] at hrefusal'
    cases hrefusal'

/-- A round whose reference is not refused makes its attempt to set the clock, unless the clock is
never touched. The correction is counted unless the attempt fails. -/
theorem of_no_refusal (h : ClockEnd round setup result clock attempts) {r : Reference}
    (hreference : round.reference setup = some r) (hrefusal : round.refusal? setup r = none) :
    attempts = (if round.controller.clock.dryRun then []
        else [.setTime (round.world.now.add r.offset)]) ∧
      (round.controller.clock.dryRun = true ∨ round.world.clockFault = none →
        clock = round.controller.clock.corrected r.offset (leap setup r)) := by
  cases h with
  | noReference hnone =>
    rw [hreference] at hnone
    cases hnone
  | refused hreference' hrefusal' =>
    obtain rfl := Option.some.inj (hreference.symm.trans hreference')
    rw [hrefusal] at hrefusal'
    cases hrefusal'
  | failed hreference' _ hdry hfault =>
    obtain rfl := Option.some.inj (hreference.symm.trans hreference')
    exact ⟨by simp [hdry], by simp [hdry, hfault]⟩
  | reported hreference' _ hdry | done hreference' _ hdry =>
    obtain rfl := Option.some.inj (hreference.symm.trans hreference')
    exact ⟨by simp [hdry], fun _ => rfl⟩

/-- A round counts a correction only by a reference that is not refused. -/
theorem of_corrections_ne (h : ClockEnd round setup result clock attempts)
    (hne : clock.corrections ≠ round.controller.clock.corrections) :
    ∃ r, round.reference setup = some r ∧ round.refusal? setup r = none := by
  cases h with
  | noReference | refused | failed => exact absurd rfl hne
  | reported hreference hrefusal | done hreference hrefusal => exact ⟨_, hreference, hrefusal⟩

/-- A round does not change what a clock is made with. -/
theorem clock_frame (h : ClockEnd round setup result clock attempts) :
    clock.dryRun = round.controller.clock.dryRun ∧
      clock.panicThreshold = round.controller.clock.panicThreshold := by
  cases h <;> exact ⟨rfl, rfl⟩

end ClockEnd

end Round

/-! ## Settings -/

/-- The second controller has the settings of the first one. -/
structure Controller.SameSettings (c d : Controller) : Prop where
  config : d.config = c.config
  pace : d.pace = c.pace
  quorum : d.quorum = c.quorum
  dryRun : d.clock.dryRun = c.clock.dryRun
  panicThreshold : d.clock.panicThreshold = c.clock.panicThreshold

namespace Controller.SameSettings

theorem refl (c : Controller) : SameSettings c c := ⟨rfl, rfl, rfl, rfl, rfl⟩

theorem trans {c d e : Controller} (h : SameSettings c d) (h' : SameSettings d e) :
    SameSettings c e :=
  ⟨h'.config.trans h.config, h'.pace.trans h.pace, h'.quorum.trans h.quorum,
    h'.dryRun.trans h.dryRun, h'.panicThreshold.trans h.panicThreshold⟩

end Controller.SameSettings

namespace Controller

/-- Finding the peers leaves the settings and the servers alone. -/
theorem init_settings (c : Controller) (w : World) :
    c.SameSettings (c.init w).2.1 ∧ (c.init w).2.1.responder = c.responder ∧
      (c.init w).2.1.statusServer = c.statusServer := by
  obtain ⟨_, _, heq, -⟩ | ⟨_, _, heq⟩ | ⟨_, _, heq⟩ := c.init_end w <;> rw [heq] <;>
    exact ⟨⟨rfl, rfl, rfl, rfl, rfl⟩, rfl, rfl⟩

/-- A round leaves the settings and the servers alone. -/
theorem ending_settings (round : Round) (setup : Bool) :
    round.controller.SameSettings (round.ending setup).2.1 ∧
      (round.ending setup).2.1.responder = round.controller.responder ∧
      (round.ending setup).2.1.statusServer = round.controller.statusServer := by
  obtain ⟨attempts, -, hclock⟩ := round.clock_end setup
  obtain ⟨hdry, hpanic⟩ := hclock.clock_frame
  cases setup with
  | true =>
    obtain ⟨_, _, _, _, _, _, _, heq⟩ := round.controller.firstSync_frame round.world
    have heq : (round.ending true).2.1 = _ := heq
    rw [heq] at hdry hpanic ⊢
    exact ⟨⟨rfl, rfl, rfl, hdry, hpanic⟩, rfl, rfl⟩
  | false =>
    obtain ⟨_, _, _, _, _, _, _, _, _, -, heq⟩ := round.controller.cycle_frame round.world
    have heq : (round.ending false).2.1 = _ := heq
    rw [heq] at hdry hpanic ⊢
    exact ⟨⟨rfl, rfl, rfl, hdry, hpanic⟩, rfl, rfl⟩

end Controller

end Concord
