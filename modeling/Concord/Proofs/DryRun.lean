import Concord.Proofs.Rehearsal
import Concord.Proofs.RunSafety
import Concord.Proofs.SameRound

/-!
# Dry runs

A dry run of the daemon is compared, step by step, with the real run of the same configuration. The
two controllers differ in whether they set the clock and in the times that they know, which are when
the clock was last corrected and the reference time of the template, and in nothing else
(`Controller.Rehearses`). Every step keeps that up (`Life.Rehearses.next`): no time is looked at
unless a datagram is answered.

The main statement is `dryRun_simulates`. Whatever the clocks show, the dry run does at each point
of its course what the real run does there, but for setting the clock, and ends alike.
-/

namespace Concord

/-- Whether the clock is never touched has no part in bringing the numbers into their bounds. -/
theorem Config.clamp_dryRun (config : Config) (dryRun : Document) :
    { config with dryRun }.clamp = config.clamp.map fun c => { c with dryRun } := by
  simp only [clamp]
  cases clampPolls config.minPoll config.maxPoll with
  | error fault => rfl
  | ok polls =>
    cases atLeast 0 config.rateSize with
    | error fault => rfl
    | ok rateSize =>
      cases atLeast 1 config.maxSamples with
      | error fault => rfl
      | ok maxSamples => cases atLeast 1 config.goodFilter <;> rfl

namespace Controller

/-- The controller that sets the clock, where this one only reports that it would, and that knows
the times of another run. -/
def settingClock (c : Controller) (lastSync : Option Binary64) (refTime : Binary64) : Controller :=
  { c with
    config := { c.config with dryRun := .bool false }
    clock := { c.clock with dryRun := false }
    template := { c.template with refTime }
    lastSync }

/-- The configuration for a dry run is refused if the one for the real run is. Otherwise the two
controllers are the same, but for setting the clock. -/
theorem make?_settingClock (config : Config) (collected : Bool) :
    make? { config with dryRun := .bool false } collected =
      (make? { config with dryRun := .bool true } collected).map fun c =>
        c.settingClock c.lastSync c.template.refTime := by
  unfold make?
  rw [Config.clamp_dryRun config (.bool false), Config.clamp_dryRun config (.bool true)]
  cases config.clamp with
  | error fault => rfl
  | ok clamped =>
    simp only [Except.map, Except.mapError, bind, Except.bind]
    cases Pace.make? clamped.minPoll clamped.maxPoll standardWaits Pace.standardStable
        Pace.standardRetry with
    | error trouble => rfl
    | ok pace =>
      cases clamped.maxSamples.numberFor "<" with
      | error fault => rfl
      | ok requests =>
        cases clamped.goodFilter.numberFor "<" with
        | error fault => rfl
        | ok quorum =>
          have hset : (Document.bool false).isSet = false := rfl
          simp only [pure, Except.pure, settingClock, hset]

/-- The controller of a dry run and that of the real run. -/
structure Rehearses (c d : Controller) : Prop where
  dryRun : c.clock.dryRun = true
  alike : ∃ lastSync refTime, d = c.settingClock lastSync refTime

/-- Two steps of a dry run and of the real run come to the same. -/
def Abreast {α : Type} (x x' : α × Controller × World) : Prop :=
  ∃ a c d w w', x = (a, c, w) ∧ x' = (a, d, w') ∧ c.Rehearses d ∧ w.Rehearses w'

variable {c d : Controller} {w w' : World}

/-- Steps that come to the same and leave such controllers and worlds. -/
theorem Rehearses.abreast {α : Type} (h : c.Rehearses d) (hw : w.Rehearses w') (a : α) :
    Abreast (a, c, w) (a, d, w') := ⟨a, c, d, w, w', rfl, rfl, h, hw⟩

/-! ## Finding the peers -/

/-- The daemons find the same peers. -/
theorem init_rehearses (h : c.Rehearses d) (hw : w.Rehearses w') :
    Abreast (c.init w) (d.init w') := by
  obtain ⟨hdry, lastSync, refTime, rfl⟩ := h
  have hfind : World.Abreast ({ c with phase := .initializing }.findPeers w)
      ({ c.settingClock lastSync refTime with phase := .initializing }.findPeers w') := by
    simp only [findPeers, settingClock, directory_rehearses hw]
    cases c.config.peers.items with
    | error fault => exact hw.abreast _
    | ok names =>
      obtain ⟨found, v, v', hv, hv', hr⟩ :=
        discover_rehearses w'.directory ⟨c.config.queryTimeout, c.requests⟩ hw names
      simp only [hv, hv']
      exact hr.abreast _
  obtain ⟨found, v, v', hv, hv', hr⟩ := hfind
  simp only [init, hv, hv']
  cases found with
  | error fault => exact ⟨_, _, _, _, _, rfl, rfl, ⟨hdry, _, _, rfl⟩, hr⟩
  | ok peers =>
    cases peers with
    | nil => exact ⟨_, _, _, _, _, rfl, rfl, ⟨hdry, _, _, rfl⟩, hr⟩
    | cons p rest => exact ⟨_, _, _, _, _, rfl, rfl, ⟨hdry, _, _, rfl⟩, hr.note ..⟩

/-! ## Rounds -/

/-- The peers are polled alike, and the same reference is chosen. -/
theorem poll_rehearses (h : c.Rehearses d) (hw : w.Rehearses w') (setup : Bool) :
    Abreast (c.poll setup w) (d.poll setup w') := by
  obtain ⟨hdry, lastSync, refTime, rfl⟩ := h
  obtain ⟨peers, v, v', hv, hv', hr⟩ := pollPeers_rehearses hw c.peers c.config.maxStd setup
  simp only [poll, settingClock, hv, hv']
  exact ⟨_, _, _, _, _, rfl, rfl, ⟨hdry, _, _, rfl⟩, Quorum.noteMedian_rehearses hr ..⟩

/-- The clock is corrected alike. -/
theorem correct_rehearses (h : c.Rehearses d) (hw : w.Rehearses w') (r : Reference) (leap : Int) :
    Abreast (c.correct r leap w) (d.correct r leap w') := by
  obtain ⟨hdry, lastSync, refTime, rfl⟩ := h
  obtain ⟨failure, clock, v, v', hv, hv', hclock, hr⟩ :=
    Clock.apply_rehearses hw hdry r.offset leap c.config.forceUpdate.isSet
  simp only [correct, settingClock, hv, hv']
  exact ⟨_, _, _, _, _, rfl, rfl, ⟨hclock, _, _, rfl⟩, hr⟩

/-- What a reference says is published alike, but for the times. -/
theorem publish_rehearses (h : c.Rehearses d) (r : Reference) (w w' : World) :
    ∃ fault c' d', c.publish r w = (fault, c') ∧ d.publish r w' = (fault, d') ∧
      c'.Rehearses d' := by
  obtain ⟨hdry, lastSync, refTime, rfl⟩ := h
  cases hdispersion : dispersionOf r.peer with
  | error fault =>
    exact ⟨_, _, _, c.publish_of_noDispersion w hdispersion,
      (c.settingClock lastSync refTime).publish_of_noDispersion w' hdispersion, hdry, _, _, rfl⟩
  | ok dispersion =>
    have hnow := Template.fromReference_now r c.sleep dispersion w.now w'.now
    cases htemplate : Template.fromReference r c.sleep dispersion w.now with
    | error fault =>
      rw [htemplate] at hnow
      exact ⟨_, _, _, c.publish_of_noTemplate w hdispersion htemplate,
        (c.settingClock lastSync refTime).publish_of_noTemplate w' hdispersion hnow,
        hdry, _, _, rfl⟩
    | ok template =>
      rw [htemplate] at hnow
      exact ⟨_, _, _, c.publish_eq r w hdispersion htemplate,
        (c.settingClock lastSync refTime).publish_eq r w' hdispersion hnow, hdry, _, _, rfl⟩

/-- The first rounds end alike. -/
theorem firstSync_rehearses (h : c.Rehearses d) (hw : w.Rehearses w') :
    Abreast (c.firstSync w) (d.firstSync w') := by
  have hentered : { c with phase := .firstSync }.Rehearses { d with phase := .firstSync } := by
    obtain ⟨hdry, lastSync, refTime, rfl⟩ := h
    exact ⟨hdry, _, _, rfl⟩
  obtain ⟨chosen, c₁, d₁, v, v', hv, hv', hcd, hr⟩ := poll_rehearses hentered hw true
  simp only [firstSync, hv, hv']
  cases chosen with
  | none =>
    obtain ⟨hdry, lastSync, refTime, rfl⟩ := hcd
    exact ⟨_, _, _, _, _, rfl, rfl, ⟨hdry, _, _, rfl⟩, hr⟩
  | some r =>
    obtain ⟨failure, c₂, d₂, u, u', hu, hu', hcd, hr⟩ := correct_rehearses hcd hr r 0
    simp only [hu, hu']
    cases failure with
    | some failure => exact hcd.abreast (hr.note ..) _
    | none =>
      obtain ⟨fault, c₃, d₃, hc, hd, hcd⟩ := publish_rehearses hcd r u u'
      simp only [hc, hd]
      cases fault with
      | some fault => exact hcd.abreast hr _
      | none => exact hcd.abreast (hr.note ..) _

/-- The wait and the trust are adapted alike. -/
theorem adapt_rehearses (h : c.Rehearses d) (hw : w.Rehearses w') (r : Reference) :
    Abreast (c.adapt r w) (d.adapt r w') := by
  obtain ⟨hdry, lastSync, refTime, rfl⟩ := h
  simp only [adapt, settingClock]
  cases c.pace.next c.peers (some r) with
  | error fault => exact ⟨_, _, _, _, _, rfl, rfl, ⟨hdry, _, _, rfl⟩, hw⟩
  | ok paced => exact ⟨_, _, _, _, _, rfl, rfl, ⟨hdry, _, _, rfl⟩, Pace.noteNext_rehearses hw ..⟩

/-- Rounds with a reference end alike. -/
theorem settle_rehearses (h : c.Rehearses d) (hw : w.Rehearses w') (r : Reference) :
    Abreast (c.settle r w) (d.settle r w') := by
  obtain ⟨fault, c₁, d₁, v, v', hv, hv', hcd, hr⟩ := adapt_rehearses h hw r
  simp only [settle, hv, hv']
  cases fault with
  | some fault => exact hcd.abreast hr _
  | none =>
    obtain ⟨fault, c₂, d₂, hc, hd, hcd⟩ := publish_rehearses hcd r v v'
    simp only [hc, hd]
    cases fault with
    | some fault => exact hcd.abreast hr _
    | none =>
      obtain ⟨hdry, lastSync, refTime, rfl⟩ := hcd
      exact ⟨_, _, _, _, _, rfl, rfl, ⟨hdry, _, _, rfl⟩, hr.note ..⟩

/-- The later rounds end alike. -/
theorem cycle_rehearses (h : c.Rehearses d) (hw : w.Rehearses w') :
    Abreast (c.cycle w) (d.cycle w') := by
  obtain ⟨chosen, c₁, d₁, v, v', hv, hv', hcd, hr⟩ := poll_rehearses h hw false
  have hcounted : { c₁ with cycles := c₁.cycles + 1 }.Rehearses
      { d₁ with cycles := d₁.cycles + 1 } := by
    obtain ⟨hdry, lastSync, refTime, rfl⟩ := hcd
    exact ⟨hdry, _, _, rfl⟩
  simp only [cycle, hv, hv']
  cases chosen with
  | none =>
    obtain ⟨hdry, lastSync, refTime, rfl⟩ := hcd
    exact ⟨_, _, _, _, _, rfl, rfl, ⟨hdry, _, _, rfl⟩, hr.note ..⟩
  | some r =>
    obtain ⟨failure, c₂, d₂, u, u', hu, hu', hcd, hr⟩ :=
      correct_rehearses hcounted hr r r.sample.leap
    simp only [hu, hu']
    cases failure with
    | some failure => exact hcd.abreast (hr.note ..) _
    | none => exact settle_rehearses hcd hr r

/-! ## Serving -/

/-- Starting the responder ends alike. -/
theorem startResponder_rehearses (h : c.Rehearses d) (hw : w.Rehearses w') :
    Abreast (c.startResponder w) (d.startResponder w') := by
  obtain ⟨hdry, lastSync, refTime, rfl⟩ := h
  have hresponder :
      responderOf (c.settingClock lastSync refTime).config = responderOf c.config := rfl
  have hlisten : (c.settingClock lastSync refTime).config.listen = c.config.listen := rfl
  simp only [startResponder, hresponder, hlisten]
  split
  · cases responderOf c.config with
    | error trouble => exact ⟨_, _, _, _, _, rfl, rfl, ⟨hdry, _, _, rfl⟩, hw⟩
    | ok responder =>
      obtain ⟨error, started, v, v', hv, hv', hr⟩ := responder.start_rehearses hw
      simp only [hv, hv']
      exact ⟨_, _, _, _, _, rfl, rfl, ⟨hdry, _, _, rfl⟩, hr⟩
  · exact ⟨_, _, _, _, _, rfl, rfl, ⟨hdry, _, _, rfl⟩, hw⟩

/-- Starting the status server ends alike. -/
theorem startStatusServer_rehearses (h : c.Rehearses d) (hw : w.Rehearses w') :
    Abreast (c.startStatusServer w) (d.startStatusServer w') := by
  obtain ⟨hdry, lastSync, refTime, rfl⟩ := h
  have hmetric : (c.settingClock lastSync refTime).config.metric = c.config.metric := rfl
  simp only [startStatusServer, hmetric]
  split
  · cases endpointOf c.config.metric statusPort with
    | error trouble => exact ⟨_, _, _, _, _, rfl, rfl, ⟨hdry, _, _, rfl⟩, hw⟩
    | ok endpoint =>
      obtain ⟨error, started, v, v', hv, hv', hr⟩ :=
        StatusServer.start_rehearses hw ⟨endpoint, false⟩
      simp only [hv, hv']
      exact ⟨_, _, _, _, _, rfl, rfl, ⟨hdry, _, _, rfl⟩, hr⟩
  · exact ⟨_, _, _, _, _, rfl, rfl, ⟨hdry, _, _, rfl⟩, hw⟩

/-- Stopping the responder is the same. -/
theorem stopResponder_rehearses (h : c.Rehearses d) (hw : w.Rehearses w') :
    (c.stopResponder w).1.Rehearses (d.stopResponder w').1 ∧
      (c.stopResponder w).2.Rehearses (d.stopResponder w').2 := by
  obtain ⟨hdry, lastSync, refTime, rfl⟩ := h
  have hresponder : (c.settingClock lastSync refTime).responder = c.responder := rfl
  simp only [stopResponder, hresponder]
  cases c.responder with
  | none => exact ⟨⟨hdry, _, _, rfl⟩, hw⟩
  | some responder =>
    simp only [Responder.stop]
    split
    · exact ⟨⟨hdry, _, _, rfl⟩, (hw.record _).note ..⟩
    · exact ⟨⟨hdry, _, _, rfl⟩, hw⟩

/-- Stopping the status server is the same. -/
theorem stopStatusServer_rehearses (h : c.Rehearses d) (hw : w.Rehearses w') :
    (c.stopStatusServer w).1.Rehearses (d.stopStatusServer w').1 ∧
      (c.stopStatusServer w).2.Rehearses (d.stopStatusServer w').2 := by
  obtain ⟨hdry, lastSync, refTime, rfl⟩ := h
  have hserver : (c.settingClock lastSync refTime).statusServer = c.statusServer := rfl
  simp only [stopStatusServer, hserver]
  cases c.statusServer with
  | none => exact ⟨⟨hdry, _, _, rfl⟩, hw⟩
  | some server =>
    simp only [StatusServer.stop]
    split
    · exact ⟨⟨hdry, _, _, rfl⟩, hw.note ..⟩
    · exact ⟨⟨hdry, _, _, rfl⟩, hw⟩

/-- The end of serving is the same. -/
theorem stopServing_rehearses (h : c.Rehearses d) (hw : w.Rehearses w') :
    (c.stopServing w).1.Rehearses (d.stopServing w').1 ∧
      (c.stopServing w).2.Rehearses (d.stopServing w').2 := by
  obtain ⟨hstopped, hleft⟩ := stopResponder_rehearses h hw
  exact stopStatusServer_rehearses hstopped hleft

/-- Being asked to stop is the same. -/
theorem stop_rehearses (h : c.Rehearses d) (hw : w.Rehearses w') :
    (c.stop w).1.Rehearses (d.stop w').1 ∧ (c.stop w).2.Rehearses (d.stop w').2 := by
  obtain ⟨hdry, lastSync, refTime, rfl⟩ := h
  exact ⟨⟨hdry, _, _, rfl⟩, hw.note ..⟩

end Controller

/-! ## Whole lives -/

/-- A wait of a dry run and one of the real run. The network comes to answer alike, and the daemon
is asked to stop in both or in neither. No datagram arrives, and the clock does not come to be one
that cannot be set. What the clocks show may be different. -/
structure Pause.Rehearses (pause other : Pause) : Prop where
  scripts : pause.change.scripts = other.change.scripts
  clockFault : pause.change.clockFault = other.change.clockFault
  settable : pause.change.clockFault.getD none = none
  noDatagram : pause.datagram = none ∧ other.datagram = none
  stop : pause.stop = other.stop

namespace Life

/-- A point of a dry run and the same point of the real run. -/
structure Rehearses (s t : Life) : Prop where
  stage : s.stage = t.stage
  pauses : List.Forall₂ Pause.Rehearses s.pauses t.pauses
  controller : s.controller.Rehearses t.controller
  world : s.world.Rehearses t.world

variable {s t : Life}

/-- The lives go on after steps that come to the same. -/
theorem Rehearses.onward {α : Type} (h : s.Rehearses t) {step other : Step α}
    (hstep : Controller.Abreast step other) (stage : Stage) :
    (s.onward stage step).Rehearses (t.onward stage other) := by
  obtain ⟨result, c, d, w, w', rfl, rfl, hcd, hw⟩ := hstep
  exact ⟨rfl, h.pauses, hcd, hw⟩

/-- The daemons wait alike. -/
theorem Rehearses.wait (h : s.Rehearses t) : s.wait.Rehearses t.wait := by
  obtain ⟨stage, pauses, c, w⟩ := s
  obtain ⟨stage', others, d, w'⟩ := t
  obtain ⟨rfl, hpauses, hc, hw⟩ := h
  simp only at hpauses hc hw
  have hsame : d.stopping = c.stopping ∧ d.sleep = c.sleep := by
    obtain ⟨-, lastSync, refTime, rfl⟩ := hc
    exact ⟨rfl, rfl⟩
  have hquit {v v' : World} {rest rest' : List Pause} (hr : v.Rehearses v')
      (hrest : List.Forall₂ Pause.Rehearses rest rest') :
      (quit rest c v).Rehearses (quit rest' d v') := by
    obtain ⟨hstopped, hleft⟩ := Controller.stop_rehearses hc hr
    exact ⟨rfl, hrest, hstopped, hleft⟩
  unfold Life.wait
  simp only [hsame]
  split
  · exact ⟨rfl, hpauses, hc, hw⟩
  · have hwait := hw.record (.wait c.sleep)
    cases hpauses with
    | nil => exact hquit hwait .nil
    | cons hpause hrest =>
      have hchange := hwait.change hpause.scripts hpause.clockFault hpause.settable
      simp only [Controller.pass, hpause.noDatagram, hpause.stop]
      split
      · exact hquit hchange hrest
      · exact ⟨rfl, hrest, hc, hchange⟩

/-- Every step of the two lives comes to the same. -/
theorem Rehearses.next (h : s.Rehearses t) : s.next.Rehearses t.next := by
  have hstage := h.stage
  cases hs : s.stage with
  | fresh =>
    rw [hs] at hstage
    simp only [Life.next, hs, ← hstage]
    exact h.onward (Controller.init_rehearses h.controller h.world) _
  | found =>
    rw [hs] at hstage
    simp only [Life.next, hs, ← hstage]
    obtain ⟨r, c, d, w, w', hv, hv', hcd, hw⟩ :=
      Controller.firstSync_rehearses h.controller h.world
    refine h.onward ?_ _
    simp only [Round.ending, if_true, hv, hv']
    exact hcd.abreast hw _
  | synced =>
    rw [hs] at hstage
    obtain ⟨trouble, c, d, w, w', hv, hv', hcd, hw⟩ :=
      Controller.startResponder_rehearses h.controller h.world
    simp only [Life.next, hs, ← hstage, hv, hv']
    cases trouble with
    | none => exact ⟨rfl, h.pauses, hcd, hw⟩
    | some trouble => exact ⟨rfl, h.pauses, hcd, hw⟩
  | responding =>
    rw [hs] at hstage
    obtain ⟨trouble, c, d, w, w', hv, hv', hcd, hw⟩ :=
      Controller.startStatusServer_rehearses h.controller h.world
    simp only [Life.next, hs, ← hstage, hv, hv']
    cases trouble with
    | none =>
      obtain ⟨hdry, lastSync, refTime, rfl⟩ := hcd
      exact ⟨rfl, h.pauses, ⟨hdry, _, _, rfl⟩, hw⟩
    | some trouble => exact ⟨rfl, h.pauses, hcd, hw⟩
  | steady =>
    rw [hs] at hstage
    simp only [Life.next, hs, ← hstage]
    exact h.wait
  | woken =>
    rw [hs] at hstage
    simp only [Life.next, hs, ← hstage]
    exact h.onward (Controller.cycle_rehearses h.controller h.world) _
  | closing result =>
    rw [hs] at hstage
    simp only [Life.next, hs, ← hstage]
    obtain ⟨hcd, hw⟩ := Controller.stopServing_rehearses h.controller h.world
    obtain ⟨hdry, lastSync, refTime, hd⟩ := hcd
    rw [hd]
    exact ⟨rfl, h.pauses, ⟨hdry, _, _, rfl⟩, hw⟩
  | ended result =>
    rw [hs] at hstage
    simp only [Life.next, hs, ← hstage]
    exact h

/-- Every step of the two lives does the same, but for setting the clock. -/
theorem Rehearses.doing (h : s.Rehearses t) :
    s.doing.filter Event.sparesClock = t.doing.filter Event.sparesClock := by
  have hnext := h.next.world.events
  rw [events_next, events_next, List.filter_append, List.filter_append, h.world.events] at hnext
  exact List.append_cancel_left hnext

end Life

namespace Controller

variable {c d : Controller} {pauses others : List Pause} {w w' : World}

/-- The two runs come to the same at every point. -/
theorem course_rehearses (h : c.Rehearses d) (hpauses : List.Forall₂ Pause.Rehearses pauses others)
    (hw : w.Rehearses w') (n : Nat) :
    (c.course pauses w n).Rehearses (d.course others w' n) := by
  induction n with
  | zero => exact ⟨rfl, hpauses, h, hw⟩
  | succ n ih =>
    rw [course_succ, course_succ]
    exact ih.next

/-! ## Whole runs -/

/-- A dry run simulates the real run of the same configuration. -/
structure Simulates (c d : Controller) (pauses others : List Pause) (w : World) : Prop where
  /-- At every point both runs have come equally far, and their controllers differ only in whether
  they set the clock, in when it was last corrected, and in the reference time of the template. -/
  point : ∀ n, (c.course pauses w n).stage = (d.course others w n).stage ∧
    ∃ lastSync refTime, (d.course others w n).controller =
      (c.course pauses w n).controller.settingClock lastSync refTime
  /-- Every step of the dry run does what the real one does, but for setting the clock. -/
  doing : ∀ n, (c.course pauses w n).doing =
    (d.course others w n).doing.filter Event.sparesClock
  /-- The dry run never sets the clock. -/
  spares : ∀ n value, .setTime value ∉ (c.course pauses w n).doing
  /-- Both runs end alike. -/
  result : (c.run pauses w).1 = (d.run others w).1
  /-- The controllers still differ in the same things only. -/
  left : ∃ lastSync refTime,
    (d.run others w).2.1 = (c.run pauses w).2.1.settingClock lastSync refTime
  /-- The events of the dry run are those of the real one, but for setting the clock. -/
  events : ∃ done, (d.run others w).2.2.events = w.events ++ done ∧
    (c.run pauses w).2.2.events = w.events ++ done.filter Event.sparesClock

/-- The run of a controller that never sets the clock simulates that of one that does, if the two
are the same otherwise. -/
theorem simulates_of_rehearses (h : c.Rehearses d)
    (hpauses : List.Forall₂ Pause.Rehearses pauses others) (hw : w.clockFault = none)
    (hspares : ∀ n value, .setTime value ∉ (c.course pauses w n).doing) :
    Simulates c d pauses others w := by
  have hcourse := course_rehearses h hpauses (.refl hw)
  have hdoing (n : Nat) : (c.course pauses w n).doing =
      (d.course others w n).doing.filter Event.sparesClock := by
    rw [← (hcourse n).doing]
    refine (List.filter_eq_self.2 fun e he => ?_).symm
    cases e with
    | setTime value => exact absurd he (hspares n value)
    | _ => rfl
  obtain ⟨n, rest, hn⟩ := c.exists_course_run pauses w
  have hended := hcourse n
  rw [hn] at hended
  obtain ⟨rest', hn'⟩ := d.course_run_of_ended hended.stage.symm
  rw [hn'] at hended
  refine ⟨fun n => ⟨(hcourse n).stage, (hcourse n).controller.alike⟩, hdoing, hspares, ?_,
    hended.controller.alike, ?_⟩
  · exact Stage.ended.inj hended.stage
  · have hevents := c.events_course pauses w n
    have hevents' := d.events_course others w n
    rw [hn] at hevents
    rw [hn'] at hevents'
    refine ⟨_, hevents', ?_⟩
    rw [hevents, List.filter_flatMap]
    simp only [hdoing]

/-- Take a configuration, once for a dry run and once for the real one, a world in which the clock
can be set, and waits in which the network comes to answer alike and no datagram arrives. Whatever
the clocks show then, either both configurations are refused for the same trouble, or the dry run
simulates the real one. -/
theorem dryRun_simulates (config : Config) (collected : Bool) {pauses others : List Pause}
    (hpauses : List.Forall₂ Pause.Rehearses pauses others) {w : World}
    (hw : w.clockFault = none) :
    (∃ trouble, make? { config with dryRun := .bool true } collected = .error trouble ∧
        make? { config with dryRun := .bool false } collected = .error trouble) ∨
      ∃ c d, make? { config with dryRun := .bool true } collected = .ok c ∧
        make? { config with dryRun := .bool false } collected = .ok d ∧
        Simulates c d pauses others w := by
  have hreal := make?_settingClock config collected
  cases hdry : make? { config with dryRun := .bool true } collected with
  | error trouble =>
    rw [hdry] at hreal
    exact .inl ⟨trouble, rfl, hreal⟩
  | ok c =>
    rw [hdry] at hreal
    have hclock : c.clock.dryRun = true := by rw [(takesOver_of_make hdry).clock]; rfl
    refine .inr ⟨c, _, rfl, hreal, simulates_of_rehearses ⟨hclock, _, _, rfl⟩ hpauses hw ?_⟩
    intro n value hset
    obtain ⟨hnot, -⟩ := (safeRun_of_make hdry pauses w).set n value hset
    cases hnot

/-- A dry run of the daemon of one peer simulates its real run, in which the clock jumps back by
half a century while the daemon waits. -/
theorem simulates_of_servingPeer :
    ∃ c d, make? { servingPeer with dryRun := .bool true } false = .ok c ∧
      make? { servingPeer with dryRun := .bool false } false = .ok d ∧
      Simulates c d [{}] [{ change := { now := some .zero } }] oneServer := by
  have hpauses : List.Forall₂ Pause.Rehearses [{}] [{ change := { now := some .zero } }] :=
    .cons ⟨rfl, rfl, rfl, ⟨rfl, rfl⟩, rfl⟩ .nil
  rcases dryRun_simulates servingPeer false hpauses (w := oneServer) rfl with
    ⟨trouble, htrouble, -⟩ | hsimulates
  · have hok : (make? { servingPeer with dryRun := .bool true } false).isOk = true := by
      decide +kernel
    rw [htrouble] at hok
    cases hok
  · exact hsimulates

end Controller

end Concord
