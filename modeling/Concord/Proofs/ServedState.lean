import Concord.Status
import Concord.Proofs.CycleOutcome
import Concord.Proofs.RunSafety

/-!
# What is served in the course of a life

Between the rounds the template stays as it is, and only a round that is completed with a reference
replaces it (`Round.reflects_of_ok`, `Round.template_of_not_ok`). So at every point of a life after
the first correction the template is that of the last completed round (`Controller.LastSync`). The
samples of a peer are never rejected ones, so such a template always says that the host is
synchronized.

The main statement is `serves_of_make`: whatever is served, from the first attempt to open a socket
on, is what the last completed round says (`Controller.Serves`), and no correction is refused
because of a leap indicator.
-/

namespace Concord

/-! ## Templates -/

/-- A wait of the standard table is the power of two that is announced for it. -/
theorem eq_pow_of_pollExponent {wait : Binary64} {exponent : Int} (hwait : wait ∈ standardWaits)
    (h : pollExponent wait = .ok exponent) : wait = .ofNat (2 ^ exponent.toNat) := by
  have hall : ∀ x ∈ standardWaits,
      (pollExponent x).toOption.all fun k => x = .ofNat (2 ^ k.toNat) := by decide +kernel
  have hone := hall wait hwait
  rw [h] at hone
  exact of_decide_eq_true hone

/-- The sample is synchronized, and its stratum is one of a source. -/
structure Sample.Sound (s : Sample) : Prop where
  stratum : 1 ≤ s.stratum ∧ s.stratum ≤ 15
  leap : s.leap = 0 ∨ s.leap = 1 ∨ s.leap = 2

/-- The sample is one that a packet can hold. -/
def Sample.OnWire (s : Sample) : Prop :=
  (0 ≤ s.stratum ∧ s.stratum ≤ 255) ∧ 0 ≤ s.leap ∧ s.leap ≤ 3

/-- A sample from a packet is sound if it is not rejected. -/
theorem Sample.sound_of_onWire {s : Sample} (h : s.OnWire) (haccepted : s.rejection? = none) :
    s.Sound := by
  obtain ⟨⟨hpos, -⟩, hlow, hhigh⟩ := h
  obtain ⟨hzero, hvalid, halarm⟩ := rejection?_eq_none.1 haccepted
  simp only [invalidStratum, leapAlarm] at hvalid halarm
  exact ⟨by omega, by omega⟩

/-! ## Rounds -/

namespace Round

variable {round : Round} {setup : Bool}

/-- A round that is completed with a reference leaves what that says, published with the wait that
the round leaves. -/
theorem reflects_of_ok {r : Reference} (h : (round.ending setup).1 = .ok (some r)) :
    round.reference setup = some r ∧
      (∃ now, (round.ending setup).2.1.Reflects r (round.ending setup).2.1.sleep now) ∧
      ((round.ending setup).2.1.sleep ∈ round.controller.pace.waits ∨
        setup = true ∧ (round.ending setup).2.1.sleep = round.controller.sleep) := by
  cases setup with
  | true =>
    have hend := round.controller.firstSync_end round.world
    have heq : (round.ending true).2.1 = (round.controller.firstSync round.world).2.1 := rfl
    rw [ending_true_eq_ok.1 h] at hend
    rw [heq]
    generalize (round.controller.firstSync round.world).2.1 = d at hend
    cases hend with
    | published hreference hpublish =>
      have hreflects := (Controller.reflects_of_publish hpublish).1
      obtain ⟨_, _, _, _, _, _, rfl⟩ := Controller.publish_frame hpublish
      exact ⟨hreference, ⟨_, hreflects⟩, .inr ⟨rfl, rfl⟩⟩
  | false =>
    have hend := round.controller.cycle_end round.world
    have hok : (round.controller.cycle round.world).1 = .ok (some r) := h
    have heq : (round.ending false).2.1 = (round.controller.cycle round.world).2.1 := rfl
    rw [hok] at hend
    rw [heq]
    generalize (round.controller.cycle round.world).2.1 = d at hend
    cases hend with
    | published hreference hnext hpublish =>
      have hreflects := (Controller.reflects_of_publish hpublish).1
      obtain ⟨_, _, _, _, _, _, rfl⟩ := Controller.publish_frame hpublish
      exact ⟨hreference, ⟨_, hreflects⟩, .inl (Pace.mem_waits_of_next hnext)⟩

/-- What cannot be published leaves the template. -/
theorem template_of_fault {c d : Controller} {r : Reference} {w : World} {fault : Fault}
    (h : c.publish r w = (some fault, d)) : d.template = c.template := by
  have hrecord : (c.record r w.now).1 = some fault →
      (c.record r w.now).2.template = c.template := by
    simp only [Controller.record]
    split
    · exact fun _ => rfl
    · split
      · exact fun _ => rfl
      · intro hnone
        cases hnone
  simp only [Controller.publish] at h
  split at h
  · rename_i hrun
    cases h
    rw [hrun] at hrecord
    exact hrecord rfl
  · cases h

/-- A round that is not completed with a reference leaves the template. -/
theorem template_of_not_ok (h : ∀ r, (round.ending setup).1 ≠ .ok (some r)) :
    (round.ending setup).2.1.template = round.controller.template := by
  cases setup with
  | true =>
    have hend := round.controller.firstSync_end round.world
    have hnot : ∀ r, (round.controller.firstSync round.world).1 ≠ .ok r :=
      fun r hr => h r (ending_true_eq_ok.2 hr)
    have heq : (round.ending true).2.1 = (round.controller.firstSync round.world).2.1 := rfl
    rw [heq]
    generalize (round.controller.firstSync round.world).1 = result at hend hnot
    generalize (round.controller.firstSync round.world).2.1 = d at hend
    cases hend with
    | noReference | refused => rfl
    | unpublished _ hpublish => exact (template_of_fault hpublish).trans rfl
    | published => exact absurd rfl (hnot _)
  | false =>
    have hend := round.controller.cycle_end round.world
    have heq : (round.ending false).2.1 = (round.controller.cycle round.world).2.1 := rfl
    have hnot : ∀ r, (round.controller.cycle round.world).1 ≠ .ok (some r) := h
    rw [heq]
    generalize (round.controller.cycle round.world).1 = result at hend hnot
    generalize (round.controller.cycle round.world).2.1 = d at hend
    cases hend with
    | noReference | refused | noWait => rfl
    | unpublished _ _ hpublish => exact (template_of_fault hpublish).trans rfl
    | published => exact absurd rfl (hnot _)

/-- A sample that a peer has after a round was returned in it and not rejected, or the peer had it
before. -/
theorem mem_samples_polled {p : Peer} (hp : p ∈ round.polled setup) {s : Sample}
    (hs : s ∈ p.samples) :
    (s.rejection? = none ∧ ∃ own ∈ round.outcomes setup, .sample s ∈ own) ∨
      ∃ q ∈ round.controller.peers, s ∈ q.samples := by
  obtain ⟨i, hi⟩ := List.mem_iff_getElem?.1 hp
  obtain ⟨q, w, hq, hown, rfl⟩ := Controller.polledPeers_at hi
  have hmem := Peer.mem_samples_polled hs
  split at hmem
  · rename_i hasked
    rw [if_pos hasked] at hown
    exact .inl ⟨rejection?_of_mem_kept hmem, _, List.mem_of_getElem? hown,
      mem_outcomes_of_mem_kept hmem⟩
  · exact .inr ⟨q, List.mem_of_getElem? hq, hmem⟩

/-- A round changes no samples after its polling. -/
theorem exists_polled_of_mem {p : Peer} (hp : p ∈ (round.ending setup).2.1.peers) :
    ∃ q ∈ round.polled setup, p.samples = q.samples := by
  cases setup with
  | true =>
    obtain ⟨_, _, _, _, _, _, _, heq⟩ := round.controller.firstSync_frame round.world
    have heq : (round.ending true).2.1 = _ := heq
    rw [heq] at hp
    exact ⟨p, hp, rfl⟩
  | false =>
    obtain ⟨f, _, _, _, _, _, _, _, _, hf, heq⟩ := round.controller.cycle_frame round.world
    have heq : (round.ending false).2.1 = _ := heq
    rw [heq] at hp
    obtain ⟨q, hq, rfl⟩ := List.mem_map.1 hp
    obtain ⟨trust, htrust⟩ := hf q
    exact ⟨q, hq, by rw [htrust]⟩

/-- The reference of a round is a sample of one of its peers. -/
theorem mem_samples_of_reference {r : Reference} (h : round.reference setup = some r) :
    ∃ p ∈ round.polled setup, r.sample ∈ p.samples := by
  obtain ⟨hplace, -, hsample, -⟩ := Quorum.mem_eligible_iff.1 (Quorum.mem_eligible_of_choose h)
  exact ⟨r.peer, List.mem_of_getElem? hplace, List.mem_of_getElem? hsample⟩

end Round

/-! ## The course of a life -/

namespace Controller

section

variable {c : Controller} {pauses : List Pause} {w : World} {P : Sample → Prop}
  (hreturned : ∀ i setup round, (c.course pauses w i).round? = some (setup, round) →
    ∀ own ∈ round.outcomes setup, ∀ s, .sample s ∈ own → s.rejection? = none → P s)
  (hnone : c.peers = [])

include hreturned hnone

/-- What holds of all samples that are returned in the rounds and not rejected holds of all samples
that the peers ever have. -/
theorem forall_samples_course (n : Nat) :
    ∀ p ∈ (c.course pauses w n).controller.peers, ∀ s ∈ p.samples, P s := by
  induction n with
  | zero =>
    intro p hp
    rw [course_zero, hnone] at hp
    cases hp
  | succ n ih =>
    rw [course_succ]
    obtain ⟨-, heq⟩ | ⟨setup, round, hround⟩ | ⟨_, _, _, _, heq⟩ :=
      (c.course pauses w n).next_cases
    · -- The peers that are found have no samples.
      rw [heq]
      generalize (c.course pauses w n).controller = d at ih ⊢
      obtain ⟨peers, _, heq, hnew⟩ | ⟨_, _, heq⟩ | ⟨_, _, heq⟩ :=
        d.init_end (c.course pauses w n).world <;> rw [heq]
      · intro p hp s hs
        rw [(hnew p hp).samples] at hs
        cases hs
      · exact ih
      · intro p hp
        cases hp
    · rw [Life.next_of_round? hround]
      intro p hp s hs
      obtain ⟨q, hq, hsamples⟩ := Round.exists_polled_of_mem hp
      rw [hsamples] at hs
      rcases Round.mem_samples_polled hq hs with ⟨hkept, own, hown, hmem⟩ | ⟨before, hbefore, hold⟩
      · exact hreturned n setup round hround own hown s hmem hkept
      · obtain ⟨rfl, -⟩ := Life.eq_of_round? hround
        exact ih before hbefore s hold
    · rw [heq]
      exact ih

/-- It holds of the reference of a round, too. -/
theorem of_reference {n : Nat} {setup : Bool} {round : Round} {r : Reference}
    (hround : (c.course pauses w n).round? = some (setup, round))
    (h : round.reference setup = some r) : P r.sample := by
  obtain ⟨p, hp, hs⟩ := Round.mem_samples_of_reference h
  rcases Round.mem_samples_polled hp hs with ⟨hkept, own, hown, hmem⟩ | ⟨q, hq, hold⟩
  · exact hreturned n setup round hround own hown _ hmem hkept
  · obtain ⟨rfl, -⟩ := Life.eq_of_round? hround
    exact forall_samples_course hreturned hnone n q hq _ hold

end

variable {config : Config} {collected : Bool} {c : Controller} {pauses : List Pause} {w : World}

/-- Every wait that follows a round with a reference is one of the standard table. -/
theorem wait_of_ok (h : make? config collected = .ok c) {n : Nat} {setup : Bool} {round : Round}
    {r : Reference} (hround : (c.course pauses w n).round? = some (setup, round))
    (hok : (round.ending setup).1 = .ok (some r)) :
    (round.ending setup).2.1.sleep ∈ standardWaits := by
  obtain ⟨hwaits, -⟩ := pace_of_make (of_make h).2.1
  have hpace := (c.settings_course pauses w n).pace
  obtain ⟨rfl, hstage⟩ := Life.eq_of_round? hround
  rw [← hwaits]
  obtain ⟨-, -, hmem | ⟨rfl, hsleep⟩⟩ := Round.reflects_of_ok hok
  · rw [← hpace]
    exact hmem
  · -- The first round keeps the wait with which the peers were found.
    obtain ⟨rfl, hinit⟩ := (began_course c pauses w n).found hstage
    rcases hrun : c.init w with ⟨result, d, w'⟩
    rw [hrun] at hinit
    obtain rfl : result = .ok () := hinit
    obtain ⟨peers, rfl, -⟩ := init_ok hrun
    rw [hsleep, course_succ, course_zero]
    simp only [Life.next, Life.onward, hrun]
    exact List.mem_of_getElem? c.pace.waits_zero

/-- The step before the last one up to a point of a life that was a round completed with a
reference. -/
structure LastSync (c : Controller) (pauses : List Pause) (w : World) (n i : Nat) (setup : Bool)
    (round : Round) (r : Reference) : Prop where
  before : i < n
  begun : (c.course pauses w i).round? = some (setup, round)
  completed : (round.ending setup).1 = .ok (some r)
  last : ∀ k setup' round', i < k → k < n →
    (c.course pauses w k).round? = some (setup', round') →
    ∀ r', (round'.ending setup').1 ≠ .ok (some r')

/-- Once a round was completed with a reference, there is a last one, and the template is that which
it left. -/
theorem exists_lastSync {n i : Nat} {setup : Bool} {round : Round} {r : Reference} (hi : i < n)
    (hround : (c.course pauses w i).round? = some (setup, round))
    (hok : (round.ending setup).1 = .ok (some r)) :
    ∃ j setup' round' r', LastSync c pauses w n j setup' round' r' ∧
      (c.course pauses w n).controller.template = (round'.ending setup').2.1.template := by
  induction n with
  | zero => cases hi
  | succ n ih =>
    by_cases hlast : ∃ setup' round' r', (c.course pauses w n).round? = some (setup', round') ∧
        (round'.ending setup').1 = .ok (some r')
    · obtain ⟨setup', round', r', hround', hok'⟩ := hlast
      refine ⟨n, setup', round', r', ⟨Nat.lt_succ_self n, hround', hok', ?_⟩, ?_⟩
      · intro k _ _ hlt hk
        omega
      · rw [course_succ, Life.next_of_round? hround']
        rfl
    · -- The last step was no such round, so the last one is before it, and the template stays.
      have hne : i ≠ n := by
        rintro rfl
        exact hlast ⟨setup, round, r, hround, hok⟩
      obtain ⟨j, setup', round', r', hsync, htemplate⟩ := ih (by omega)
      refine ⟨j, setup', round', r', ⟨by have := hsync.before; omega, hsync.begun,
        hsync.completed, ?_⟩, ?_⟩
      · intro k setup'' round'' hlt hk hround'' r'' hok''
        rcases Nat.lt_succ_iff_lt_or_eq.1 hk with hlt' | rfl
        · exact hsync.last k setup'' round'' hlt hlt' hround'' r'' hok''
        · exact hlast ⟨setup'', round'', r'', hround'', hok''⟩
      · rw [← htemplate, course_succ]
        obtain ⟨-, heq⟩ | ⟨setup'', round'', hround''⟩ | ⟨_, _, _, _, heq⟩ :=
          (c.course pauses w n).next_cases
        · rw [heq]
          obtain ⟨_, _, heq, -⟩ | ⟨_, _, heq⟩ | ⟨_, _, heq⟩ :=
            (c.course pauses w n).controller.init_end (c.course pauses w n).world <;> rw [heq]
        · rw [Life.next_of_round? hround'']
          have hnot : ∀ r, (round''.ending setup'').1 ≠ .ok (some r) :=
            fun r hr => hlast ⟨setup'', round'', r, hround'', hr⟩
          refine (Round.template_of_not_ok hnot).trans ?_
          obtain ⟨rfl, -⟩ := Life.eq_of_round? hround''
          rfl
        · rw [heq]

/-! ## What is served -/

/-- What the daemon serves is synchronized and is what a reference says, with the given wait. -/
structure Serves (d : Controller) (r : Reference) (wait : Binary64) : Prop where
  synchronized : d.template.isSynchronized = true
  leap : d.template.leap = r.sample.leap ∧
    (d.template.leap = 0 ∨ d.template.leap = 1 ∨ d.template.leap = 2)
  stratum : d.template.stratum = min (r.sample.stratum + 1) 15 ∧
    2 ≤ d.template.stratum ∧ d.template.stratum ≤ 15
  poll : wait = .ofNat (2 ^ d.template.poll.toNat)
  health : (Page.health d).code = 200

/-- A template of a sound reference and a wait of the standard table is served so. -/
theorem serves_of_fromReference {d : Controller} {r : Reference} {wait dispersion now : Binary64}
    (hsound : r.sample.Sound) (hwait : wait ∈ standardWaits)
    (h : Template.fromReference r wait dispersion now = .ok d.template) : d.Serves r wait := by
  unfold Template.fromReference Template.ofSample at h
  obtain ⟨exponent, hexponent, h⟩ := bind_eq_ok.1 h
  obtain ⟨id, -, h⟩ := bind_eq_ok.1 h
  have htemplate := Except.ok.inj h
  have hleap : d.template.leap = r.sample.leap := by rw [← htemplate]
  have hstratum : d.template.stratum = min (r.sample.stratum + 1) 15 := by
    rw [← htemplate]
    rfl
  have hpoll : d.template.poll = exponent := by rw [← htemplate]
  obtain ⟨hlow, hhigh⟩ := hsound.stratum
  have hbounds : 2 ≤ d.template.stratum ∧ d.template.stratum ≤ 15 := by
    rw [hstratum]
    omega
  have hnames : d.template.leap = 0 ∨ d.template.leap = 1 ∨ d.template.leap = 2 := by
    rw [hleap]
    exact hsound.leap
  have hsynchronized : d.template.isSynchronized = true := by
    have halarm : d.template.leap ≠ leapAlarm := by
      simp only [leapAlarm]
      omega
    have hvalid : d.template.stratum < invalidStratum := by
      simp only [invalidStratum]
      omega
    simp [Template.isSynchronized, halarm, hvalid]
  refine ⟨hsynchronized, ⟨hleap, hnames⟩, ⟨hstratum, hbounds⟩, ?_, ?_⟩
  · rw [hpoll]
    exact eq_pow_of_pollExponent hwait hexponent
  · simp only [Page.health, hsynchronized, if_true]

/-- The samples that are returned in the rounds of a life are ones that a packet can hold. -/
def OnWire (c : Controller) (pauses : List Pause) (w : World) : Prop :=
  ∀ i setup round, (c.course pauses w i).round? = some (setup, round) →
    ∀ own ∈ round.outcomes setup, ∀ s, .sample s ∈ own → s.OnWire

/-- The reference of a round is synchronized. -/
theorem leap_of_reference (h : make? config collected = .ok c) {n : Nat} {setup : Bool}
    {round : Round} {r : Reference} (hround : (c.course pauses w n).round? = some (setup, round))
    (hreference : round.reference setup = some r) : Round.leap setup r ≠ leapAlarm := by
  have hsample : r.sample.leap ≠ leapAlarm :=
    of_reference (P := fun s => s.leap ≠ leapAlarm)
      (fun _ _ _ _ _ _ _ _ haccepted => (Sample.rejection?_eq_none.1 haccepted).2.2)
      (of_make h).2.2.1 hround hreference
  cases setup with
  | true => exact nofun
  | false => exact hsample

/-- A correction is refused only for its size. -/
theorem refusal?_of_make (h : make? config collected = .ok c) {n : Nat} {setup : Bool}
    {round : Round} {r : Reference} (hround : (c.course pauses w n).round? = some (setup, round))
    (hreference : round.reference setup = some r) :
    round.refusal? setup r =
      if !config.forceUpdate.isSet && (Binary64.ofInt 1000).lt r.offset.abs then
        some "offset exceeds panic threshold of 1000.0s"
      else none := by
  have hleap := leap_of_reference h hround hreference
  obtain ⟨-, hclock, hforce⟩ := takesOver_of_make h
  have hsettings := c.settings_course pauses w n
  obtain ⟨rfl, -⟩ := Life.eq_of_round? hround
  have hpanic : (c.course pauses w n).controller.clock.panicThreshold = .ofInt 1000 :=
    hsettings.panicThreshold.trans (by rw [hclock])
  have htext : "offset exceeds panic threshold of " ++ (Binary64.ofInt 1000).text ++ "s" =
      "offset exceeds panic threshold of 1000.0s" := by decide +kernel
  rw [Round.refusal?, Clock.refusal?, if_neg hleap, hsettings.config, hforce, hpanic, htext]

/-- From the first attempt to open a socket on, the daemon always serves what the reference of the
last completed round says, with the wait that this round left. No correction is refused but for its
size. -/
theorem serves_of_make (h : make? config collected = .ok c) :
    (OnWire c pauses w → ∀ n, (∃ i < n, ∃ e ∈ (c.course pauses w i).doing, e.opens = true) →
      ∃ i setup round r, LastSync c pauses w n i setup round r ∧
        (c.course pauses w n).controller.Serves r (round.ending setup).2.1.sleep) ∧
    ∀ n setup round r, (c.course pauses w n).round? = some (setup, round) →
      round.reference setup = some r → Round.leap setup r ≠ leapAlarm ∧
        round.refusal? setup r =
          if !config.forceUpdate.isSet && (Binary64.ofInt 1000).lt r.offset.abs then
            some "offset exceeds panic threshold of 1000.0s"
          else none := by
  refine ⟨?_, fun n setup round r hround hreference =>
    ⟨leap_of_reference h hround hreference, refusal?_of_make h hround hreference⟩⟩
  rintro hwire n ⟨i, hi, e, he, hopens⟩
  -- The first round was completed before anything was opened.
  obtain ⟨hlt, -, hround, r₀, hfirst⟩ := first_of_opens he hopens
  obtain ⟨j, setup, round, r, hsync, htemplate⟩ :=
    exists_lastSync (Nat.lt_trans hlt hi) hround (Round.ending_true_eq_ok.2 hfirst)
  refine ⟨j, setup, round, r, hsync, ?_⟩
  obtain ⟨hreference, ⟨now, hreflects⟩, -⟩ := Round.reflects_of_ok hsync.completed
  have hsound : r.sample.Sound :=
    of_reference (P := Sample.Sound)
      (fun i setup round hround own hown s hs =>
        Sample.sound_of_onWire (hwire i setup round hround own hown s hs))
      (of_make h).2.2.1 hsync.begun hreference
  have hmade := hreflects.template
  rw [← htemplate] at hmade
  exact serves_of_fromReference hsound (wait_of_ok h hsync.begun hsync.completed) hmade

/-- The rounds of a life that has ended after some steps are those before. -/
theorem onWire_of_ended {n : Nat} {result : Except Trouble Unit}
    (hended : (c.course pauses w n).stage = .ended result)
    (h : ∀ i < n, ∀ begun ∈ (c.course pauses w i).round?, ∀ own ∈ begun.2.outcomes begun.1,
      ∀ o ∈ own, ∀ s, o = .sample s → s.OnWire) : OnWire c pauses w := by
  intro i setup round hround own hown s hs
  by_cases hi : i < n
  · exact h i hi (setup, round) hround own hown _ hs s rfl
  · have hstage := ended_of_ended hended (Nat.le_of_not_lt hi)
    simp only [Life.round?, hstage] at hround
    cases hround

/-- After its second round the daemon of one peer serves what the server said then. -/
theorem serves_after_secondRound : OnWire servingMade [{}] oneServer ∧
    ∃ i setup round r, LastSync servingMade [{}] oneServer 6 i setup round r ∧
      (servingMade.course [{}] oneServer 6).controller.Serves r
        (round.ending setup).2.1.sleep := by
  have hended : (match (servingMade.course [{}] oneServer 8).stage with
      | .ended _ => true
      | _ => false) = true := by decide +kernel
  have hall : ∀ i < 8, ∀ begun ∈ (servingMade.course [{}] oneServer i).round?,
      ∀ own ∈ begun.2.outcomes begun.1, ∀ o ∈ own, o =
        .sample ⟨.ofDecimal false 1 (-3), 2, 0, .zero, .zero, .zero, 0, .zero⟩ := by
    decide +kernel
  have hwire : OnWire servingMade [{}] oneServer := by
    split at hended
    · rename_i result hstage
      refine onWire_of_ended hstage ?_
      rintro i hi begun hbegun own hown o ho s rfl
      rw [Outcome.sample.inj (hall i hi begun hbegun own hown _ ho)]
      show ((0 : Int) ≤ 2 ∧ (2 : Int) ≤ 255) ∧ (0 : Int) ≤ 0 ∧ (0 : Int) ≤ 3
      decide
    · cases hended
  refine ⟨hwire, (serves_of_make servingMade_eq).1 hwire 6 ⟨2, by decide, ?_⟩⟩
  exact ⟨.bindUdp "127.0.0.1" 8123, by decide +kernel, rfl⟩

end Controller

end Concord
