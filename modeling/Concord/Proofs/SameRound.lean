import Concord.Proofs.CycleOutcome
import Concord.Proofs.PeerOrder
import Concord.Proofs.RoundResult

/-!
# One round of two controllers

Two controllers are alike (`Controller.Alike`) when they have the same settings for their rounds and
the same peers, in any order. When every peer gives both the same answers, in any order, the two
rounds end alike (`Controller.SameRound`). Both have a reference or none, and correct their clocks
by the same number or fail to, and the controllers are alike again. Samples of equal offsets are
told apart by the order of the peers. When no two eligible samples have the same offset, the
reference is the same one, and so is what it publishes.

The main statement is `Alike.sameRound`. It needs bounds of the trust levels that are whole numbers:
with others only some of the references have a wait. The offsets of the answers are finite, and so
are those that a peer still holds that is not asked any more (`Controller.FiniteAtRest`). Then only
finite numbers are sorted in a round (`finite_eligible`).
-/

namespace Concord

/-! ## Equal offsets -/

namespace Binary64

/-- Only not-a-number stands behind the positive infinity. -/
theorem isNaN_eq_decide (x : Binary64) : x.isNaN = decide ((unitsLimit : Int) < x.rank) := by
  cases x with
  | nan => exact (decide_eq_true (Int.lt_succ _)).symm
  | infinite negative =>
    refine (decide_eq_false ?_).symm
    cases negative <;> simp only [rank] <;> omega
  | finite negative m =>
    have := m.fits.1
    refine (decide_eq_false ?_).symm
    cases negative <;> simp only [rank, signedUnits, Bool.false_eq_true, if_false, if_true] <;>
      omega

/-- The sign does not count in an absolute value. -/
theorem natAbs_signedUnits (negative : Bool) (units : Nat) :
    (signedUnits negative units).natAbs = units := by
  cases negative with
  | false => exact Int.natAbs_natCast units
  | true => exact (Int.natAbs_neg units).trans (Int.natAbs_natCast units)

/-- The position of an absolute value. -/
theorem rank_abs (x : Binary64) : x.abs.rank = x.rank.natAbs := by
  cases x with
  | nan => rfl
  | infinite negative =>
    have hrank : (infinite negative).rank = signedUnits negative unitsLimit := by
      cases negative <;> rfl
    rw [hrank, natAbs_signedUnits]
    rfl
  | finite negative m =>
    show (m.units : Int) = (signedUnits negative m.units).natAbs
    rw [natAbs_signedUnits]

/-- Absolute values of numbers at one position compare alike. -/
theorem lt_abs_congr {x y : Binary64} (h : x.rank = y.rank) (z : Binary64) :
    x.abs.lt z = y.abs.lt z ∧ z.lt x.abs = z.lt y.abs := by
  unfold lt
  rw [isNaN_abs, isNaN_abs, rank_abs, rank_abs, isNaN_eq_decide x, isNaN_eq_decide y, h]
  exact ⟨rfl, rfl⟩

end Binary64

/-! ## Finite offsets -/

namespace Peer

/-- The offsets of the samples are finite. -/
def FiniteOffsets (p : Peer) : Prop := ∀ s ∈ p.samples, s.offset.isFinite = true

/-- A peer has finite offsets after a later round if its answers have, or, when it is not asked, if
it had them before. -/
theorem finiteOffsets_polled {p : Peer} (maxStd : Document) {w : World}
    (hrest : p.enabled = false → p.FiniteOffsets)
    (hanswers : p.enabled = true → ∀ o ∈ p.answers w, o.isOrdinary = true) :
    (p.polled maxStd false (p.outcomes false w)).FiniteOffsets := by
  intro s hs
  have hmem := mem_samples_polled hs
  cases he : p.enabled with
  | false =>
    rw [he] at hmem
    exact hrest he s hmem
  | true =>
    rw [he] at hmem
    have hanswer : .sample s ∈ p.answers w := mem_of_mem_heard (mem_outcomes_of_mem_kept hmem)
    exact hanswers he _ hanswer

end Peer

/-! ## The pace -/

namespace Pace

variable {pace : Pace} {r s : Reference}

/-- Offsets at one position are small together. -/
theorem isStable_congr (pace : Pace) (h : r.offset.rank = s.offset.rank) :
    pace.isStable r.offset = pace.isStable s.offset :=
  (Binary64.lt_abs_congr h pace.stableOffset).1

/-- Between whole bounds every reference has a wait. -/
theorem Whole.exists_next {low high : Int} (h : pace.Whole low high) (peers : List Peer)
    (r : Reference) :
    ∃ wait, pace.next peers (some r) = .ok (wait, peers.map (pace.adjust (some r))) := by
  cases hnext : pace.next peers (some r) with
  | error fault =>
    obtain ⟨x, -, hclamp⟩ := fault_of_next hnext
    rw [h.clamp_eq] at hclamp
    cases hclamp
  | ok paced =>
    obtain ⟨wait, trusted⟩ := paced
    rw [trusted_of_next hnext]
    exact ⟨wait, rfl⟩

/-- References with offsets at one position and peers of one trust have the same wait. -/
theorem wait_eq_of_next {peers others trusted trusted' : List Peer} {wait wait' : Binary64}
    (hrank : r.offset.rank = s.offset.rank) (htrust : r.peer.trust = s.peer.trust)
    (h : pace.next peers (some r) = .ok (wait, trusted))
    (h' : pace.next others (some s) = .ok (wait', trusted')) : wait = wait' := by
  have hstable := pace.isStable_congr hrank
  rcases next_end h with ⟨hsmall, hwait, -⟩ | ⟨hlarge, hwait, -⟩
  · rcases next_end h' with ⟨-, hwait', -⟩ | ⟨hlarge', -, -⟩
    · rw [htrust, hwait'] at hwait
      exact (Except.ok.inj hwait).symm
    · rw [hsmall, hlarge'] at hstable
      cases hstable
  · rcases next_end h' with ⟨hsmall', -, -⟩ | ⟨-, hwait', -⟩
    · rw [hlarge, hsmall'] at hstable
      cases hstable
    · rw [hwait, hwait']

/-- The trust in peers that are alike changes alike. -/
theorem alike_adjust (pace : Pace) (hrank : r.offset.rank = s.offset.rank) {p q : Peer}
    (h : p.Alike q) : (pace.adjust (some r) p).Alike (pace.adjust (some s) q) := by
  obtain ⟨haddress, henabled, hhealthy, htrust, hmax, hsamples⟩ := h
  unfold adjust raise
  simp only [pace.isStable_congr hrank, hhealthy, htrust]
  split
  · split
    · exact ⟨haddress, henabled, rfl, rfl, hmax, hsamples⟩
    · exact ⟨haddress, henabled, hhealthy, htrust, hmax, hsamples⟩
  · exact ⟨haddress, henabled, rfl, rfl, hmax, hsamples⟩

end Pace

/-! ## What is published -/

/-- A template says when it was made, and nothing else in it depends on that. -/
theorem Template.fromReference_now (r : Reference) (wait dispersion now now' : Binary64) :
    fromReference r wait dispersion now' =
      (fromReference r wait dispersion now).map fun t => { t with refTime := toEpoch now' } := by
  unfold fromReference ofSample
  cases pollExponent wait with
  | error fault => rfl
  | ok exponent =>
    cases referenceId r.peer.address with
    | error fault => rfl
    | ok id => rfl

namespace Controller

/-- The deviation of a peer's samples does not depend on their order. -/
theorem dispersionOf_perm {p q : Peer} (h : p.samples.Perm q.samples) :
    dispersionOf p = dispersionOf q := by
  have hperm : p.offsets.Perm q.offsets := h.map _
  unfold dispersionOf
  rcases perm_cases hperm with ⟨hp, hq⟩ | ⟨x, hp, hq⟩ | ⟨x, x', xs, y, y', ys, hp, hq⟩
  · rw [hp, hq]
  · rw [hp, hq]
  · have hdeviation := deviation?_perm hperm
    rw [hp, hq] at hdeviation ⊢
    simp only [hdeviation]

/-- The wait, and what is known of a reference in numbers. -/
def figures (c : Controller) : Binary64 × Binary64 × Binary64 := (c.sleep, c.delay, c.dispersion)

/-- Without a deviation the offset and the delay are all that is published. -/
theorem publish_of_noDispersion (c : Controller) {r : Reference} (w : World) {fault : Fault}
    (h : dispersionOf r.peer = .error fault) :
    c.publish r w =
      (some fault, { c with offset := some r.offset, delay := r.sample.delay }) := by
  simp only [publish, record, h]

/-- Without a template everything else is published, but for the gauges. -/
theorem publish_of_noTemplate (c : Controller) {r : Reference} (w : World) {dispersion : Binary64}
    {fault : Fault} (hdispersion : dispersionOf r.peer = .ok dispersion)
    (h : Template.fromReference r c.sleep dispersion w.now = .error fault) :
    c.publish r w = (some fault, { c with
      offset := some r.offset, delay := r.sample.delay, dispersion, lastSync := some w.now }) := by
  have hrecord : c.record r w.now = (some fault, { c with
      offset := some r.offset, delay := r.sample.delay, dispersion, lastSync := some w.now }) := by
    simp [record, hdispersion, h]
  simp only [publish, hrecord]

/-- The same sample from the same address is published alike, with the same fault if there is one.
Then the figures are the same, and so are the templates made at the same time. A fault may leave the
ones that there were. -/
theorem publish_congr {c d : Controller} {r s : Reference} (w w' : World)
    (hplaced : Quorum.placed r = Quorum.placed s) (hsamples : r.peer.samples.Perm s.peer.samples)
    (hsleep : c.sleep = d.sleep) :
    (c.publish r w).1 = (d.publish s w').1 ∧
      ((c.publish r w).1 = none ∨ c.dispersion = d.dispersion →
        (c.publish r w).2.figures = (d.publish s w').2.figures) ∧
      ((c.publish r w).1 = none ∨ c.template = d.template → w.now = w'.now →
        (c.publish r w).2.template = (d.publish s w').2.template) := by
  obtain ⟨haddress, hsample⟩ := Prod.mk.inj hplaced
  have hdelay : r.sample.delay = s.sample.delay := congrArg Sample.delay hsample
  have htemplate (dispersion now : Binary64) :
      Template.fromReference s d.sleep dispersion now =
        Template.fromReference r c.sleep dispersion now := by
    unfold Template.fromReference
    rw [haddress, hsample, hsleep]
  have hdispersion := dispersionOf_perm hsamples
  cases hr : dispersionOf r.peer with
  | error fault =>
    rw [hr] at hdispersion
    rw [publish_of_noDispersion c w hr, publish_of_noDispersion d w' hdispersion.symm]
    refine ⟨rfl, fun h => ?_, fun h _ => ?_⟩
    · rcases h with h | h
      · cases h
      · simp only [figures, hsleep, hdelay, h]
    · rcases h with h | h
      · cases h
      · exact h
  | ok dispersion =>
    rw [hr] at hdispersion
    have hnow := Template.fromReference_now r c.sleep dispersion w.now w'.now
    cases hmade : Template.fromReference r c.sleep dispersion w.now with
    | error fault =>
      rw [hmade] at hnow
      have hmade' := (htemplate dispersion w'.now).trans hnow
      rw [publish_of_noTemplate c w hr hmade, publish_of_noTemplate d w' hdispersion.symm hmade']
      refine ⟨rfl, fun _ => ?_, fun h _ => ?_⟩
      · simp only [figures, hsleep, hdelay]
      · rcases h with h | h
        · cases h
        · exact h
    | ok template =>
      rw [hmade] at hnow
      have hmade' := (htemplate dispersion w'.now).trans hnow
      rw [publish_eq c r w hr hmade, publish_eq d s w' hdispersion.symm hmade']
      refine ⟨rfl, fun _ => ?_, fun _ hclock => ?_⟩
      · simp only [figures, hsleep, hdelay]
      · show template = { template with refTime := toEpoch w'.now }
        rw [← hclock, hmade] at hnow
        rw [← hclock]
        exact Except.ok.inj hnow

/-- The reference of a round of a run is synchronized. -/
theorem leap_of_choose {c : Controller} (h : Reachable c) {setup : Bool} {w : World}
    {r : Reference} (hr : Quorum.choose (c.polledPeers setup w) c.quorum = some r) :
    r.sample.leap ≠ leapAlarm := by
  obtain ⟨hplace, -, hsample, -⟩ := Quorum.mem_eligible_iff.1 (Quorum.mem_eligible_of_choose hr)
  obtain ⟨p, w', hp, -, heq⟩ := polledPeers_at hplace
  have haccepted := p.accepted_polled c.config.maxStd setup w'
    (accepted_of_reachable h p (List.mem_of_getElem? hp))
  rw [← heq] at haccepted
  exact (Sample.rejection?_eq_none.1 (haccepted r.sample (List.mem_of_getElem? hsample))).2.2

/-! ## Controllers that are alike -/

/-- The controllers have the same settings for their rounds, and the same peers in any order. -/
structure Alike (c d : Controller) : Prop where
  maxStd : c.config.maxStd = d.config.maxStd
  forceUpdate : c.config.forceUpdate.isSet = d.config.forceUpdate.isSet
  quorum : c.quorum = d.quorum
  pace : c.pace = d.pace
  panicThreshold : c.clock.panicThreshold = d.clock.panicThreshold
  dryRun : c.clock.dryRun = d.clock.dryRun
  peers : Matched c.peers d.peers

/-- In the two worlds every peer that is asked gets the same answers, in any order. They are samples
with finite offsets and failures of the network, none of them a fault. -/
structure SameAnswers (c : Controller) (w w' : World) : Prop where
  perm : ∀ p ∈ c.peers, p.enabled = true → (p.answers w).Perm (p.answers w')
  ordinary : ∀ p ∈ c.peers, p.enabled = true → ∀ o ∈ p.answers w, o.isOrdinary = true

instance (c : Controller) (w w' : World) : Decidable (c.SameAnswers w w') :=
  decidable_of_iff ((∀ p ∈ c.peers, p.enabled = true → (p.answers w).Perm (p.answers w')) ∧
      ∀ p ∈ c.peers, p.enabled = true → ∀ o ∈ p.answers w, o.isOrdinary = true)
    ⟨fun ⟨hperm, hordinary⟩ => ⟨hperm, hordinary⟩, fun h => ⟨h.perm, h.ordinary⟩⟩

/-- The samples of a peer that is not asked any more have finite offsets. It holds them for good. -/
def FiniteAtRest (c : Controller) : Prop :=
  ∀ p ∈ c.peers, p.enabled = false → p.FiniteOffsets

instance (c : Controller) : Decidable c.FiniteAtRest :=
  inferInstanceAs (Decidable
    (∀ p ∈ c.peers, p.enabled = false → ∀ s ∈ p.samples, s.offset.isFinite = true))

section

variable {c d : Controller} {w w' : World}

/-- Polling leaves all peers with finite offsets. -/
theorem finiteOffsets_polledPeers (hc : Reachable c) (hrest : c.FiniteAtRest)
    (hsame : c.SameAnswers w w') : ∀ q ∈ c.polledPeers false w, q.FiniteOffsets := by
  rw [polledPeers_eq_map hc]
  intro q hq
  obtain ⟨p, hp, rfl⟩ := List.mem_map.1 hq
  exact Peer.finiteOffsets_polled _ (hrest p hp) (hsame.ordinary p hp)

/-- The offsets that are sorted in a round are finite. -/
theorem finite_eligible (hc : Reachable c) (hrest : c.FiniteAtRest) (hsame : c.SameAnswers w w') :
    ∀ r ∈ Quorum.eligible (c.polledPeers false w), r.offset.isFinite = true := by
  intro r hr
  obtain ⟨hplace, -, hsample, -⟩ := Quorum.mem_eligible_iff.1 hr
  exact finiteOffsets_polledPeers hc hrest hsame r.peer (List.mem_of_getElem? hplace) r.sample
    (List.mem_of_getElem? hsample)

/-- A round leaves finite offsets with the peers that are not asked any more. -/
theorem FiniteAtRest.cycle (hrest : c.FiniteAtRest) (hc : Reachable c)
    (hsame : c.SameAnswers w w') : (c.cycle w).2.1.FiniteAtRest := by
  obtain ⟨f, _, _, _, _, _, _, _, _, hf, hframe⟩ := c.cycle_frame w
  rw [hframe]
  intro p hp _
  obtain ⟨q, hq, rfl⟩ := List.mem_map.1 hp
  obtain ⟨trust, htrust⟩ := hf q
  rw [htrust]
  exact finiteOffsets_polledPeers hc hrest hsame q hq

/-- Polling leaves the peers of controllers that are alike matched. -/
theorem Alike.matched_polledPeers (h : Alike c d) (hc : Reachable c) (hd : Reachable d)
    (hsame : c.SameAnswers w w') :
    Matched (c.polledPeers false w) (d.polledPeers false w') := by
  rw [polledPeers_eq_map hc, polledPeers_eq_map hd, ← h.maxStd]
  refine h.peers.map ?_
  intro p hp q halike
  refine halike.polled c.config.maxStd ?_
  intro henabled
  have hanswers : q.answers w' = p.answers w' := by
    unfold Peer.answers Peer.requestCount
    rw [halike.address, halike.maxSamples]
  rw [hanswers]
  exact ⟨hsame.perm p hp henabled, fun o ho =>
    Outcome.fault?_of_isOrdinary (hsame.ordinary p hp henabled o ho)⟩

/-! ## One round -/

/-- A round without a reference changes the wait, and nothing of what is known. -/
theorem cycle_of_choose_none (h : Quorum.choose (c.polledPeers false w) c.quorum = none) :
    (c.cycle w).1 = .ok none ∧ (c.cycle w).2.1 =
      { c with
        peers := c.polledPeers false w, cycles := c.cycles + 1, sleep := c.pace.retryWait } := by
  obtain ⟨w₁, hpoll⟩ := c.poll_eq false w
  constructor <;> simp only [cycle, hpoll, h]

/-- The controller of a round with a reference after the clock is corrected and the trust adapted,
before anything is published. -/
def paced (c : Controller) (w : World) (r : Reference) (wait : Binary64) : Controller :=
  { c with
    peers := (c.polledPeers false w).map (c.pace.adjust (some r)), cycles := c.cycles + 1
    sleep := wait, clock := c.clock.corrected r.offset r.sample.leap }

/-- The result of a round with a reference after it is published. -/
def publishedResult (r : Reference) : Option Fault → Except Trouble (Option Reference)
  | some fault => .error (.fault fault)
  | none => .ok (some r)

/-- The round has a reference and ends without a trouble. -/
def Completes (c : Controller) (w : World) : Prop := ∃ r, (c.cycle w).1 = .ok (some r)

/-- A round with a reference is completed when that is published without a fault. -/
theorem Completes.fault_eq_none {r : Reference} {fault : Option Fault} (h : c.Completes w)
    (hresult : (c.cycle w).1 = publishedResult r fault) : fault = none := by
  obtain ⟨s, hs⟩ := h
  rw [hresult] at hs
  cases fault with
  | none => rfl
  | some fault => cases hs

/-- The clock refuses the correction of a round, which then keeps all that is known. -/
structure Refuses (c : Controller) (w : World) (r : Reference) (reason : String)
    (pendingLeap : Int) : Prop where
  result : (c.cycle w).1 = .error (.failure (.clockWrite r.offset reason))
  left : (c.cycle w).2.1 = { c with
    peers := c.polledPeers false w, cycles := c.cycles + 1
    clock := { c.clock with pendingLeap } }

/-- A round corrects the clock and, in the second world, publishes its reference with the given
wait. -/
structure Corrects (c : Controller) (w : World) (r : Reference) (wait : Binary64) (v : World) :
    Prop where
  next : c.pace.next (c.polledPeers false w) (some r) =
    .ok (wait, (c.polledPeers false w).map (c.pace.adjust (some r)))
  now : v.now = if c.clock.dryRun then w.now else w.now.add r.offset
  result : (c.cycle w).1 = publishedResult r ((c.paced w r wait).publish r v).1
  left : (c.cycle w).2.1 = ((c.paced w r wait).publish r v).2

/-- What is published touches only what is known and measured of the last reference. -/
theorem Corrects.frame {r : Reference} {wait : Binary64} {v : World} (h : c.Corrects w r wait v) :
    ∃ offset delay dispersion lastSync template gauges, (c.cycle w).2.1 =
      { c.paced w r wait with offset, delay, dispersion, lastSync, template, gauges } := by
  have hpublish : (c.paced w r wait).publish r v =
      (((c.paced w r wait).publish r v).1, (c.cycle w).2.1) := Prod.ext rfl h.left.symm
  exact publish_frame hpublish

/-- A round with a synchronized reference that has a wait corrects the clock if that accepts the
offset, and is refused if not. -/
theorem refuses_or_corrects {low high : Int} (hwhole : c.pace.Whole low high) {r : Reference}
    (h : Quorum.choose (c.polledPeers false w) c.quorum = some r)
    (hleap : r.sample.leap ≠ leapAlarm) :
    (c.clock.accepts r.offset c.config.forceUpdate.isSet w = false ∧
        ∃ reason pendingLeap, c.Refuses w r reason pendingLeap) ∨
      (c.clock.accepts r.offset c.config.forceUpdate.isSet w = true ∧
        ∃ wait v, c.Corrects w r wait v) := by
  obtain ⟨w₁, hpoll⟩ := c.poll_eq false w
  have hrest := c.leavesRest_poll false w
  rw [hpoll] at hrest
  simp only at hrest
  have haccepts : c.clock.accepts r.offset c.config.forceUpdate.isSet w =
      c.clock.accepts r.offset c.config.forceUpdate.isSet w₁ := by
    unfold Clock.accepts
    rw [hrest.clockFault]
  rw [haccepts]
  rcases c.clock.apply_of_accepts r.offset c.config.forceUpdate.isSet w₁ hleap with
    ⟨hrefused, reason, pendingLeap, w₂, happly⟩ | ⟨hdone, w₂, happly, hnow⟩
  · refine .inl ⟨hrefused, reason, pendingLeap, ?_, ?_⟩ <;>
      simp only [cycle, hpoll, h, correct, happly]
  · obtain ⟨wait, hnext⟩ := hwhole.exists_next (c.polledPeers false w) r
    refine .inr ⟨hdone, wait, c.pace.noteNext (some r) w₂, hnext, ?_, ?_, ?_⟩
    · rw [← hrest.now, ← hnow]
      unfold Pace.noteNext
      dsimp only
      split <;> rfl
    all_goals
      simp only [cycle, hpoll, h, correct, happly, settle, adapt, hnext]
      rw [← paced]
      split <;> rename_i hpublish <;> rw [hpublish] <;> rfl

/-- How two rounds end together: their results and the controllers that they leave. -/
inductive SameEnd (c d : Controller) (w w' : World) : Except Trouble (Option Reference) →
    Controller → Except Trouble (Option Reference) → Controller → Prop where
  /-- Neither has a reference. The waits are the same, and all that is known stays. -/
  | noReference {c' d' : Controller} :
      Quorum.choose (c.polledPeers false w) c.quorum = none →
      Quorum.choose (d.polledPeers false w') d.quorum = none →
      c'.sleep = d'.sleep → c'.clock = c.clock → d'.clock = d.clock → c.Keeps c' → d.Keeps d' →
      SameEnd c d w w' (.ok none) c' (.ok none) d'
  /-- Both corrections of the clock fail. The waits and all that is known stay. -/
  | refused {r s : Reference} {c' d' : Controller} (reason reason' : String)
      (pendingLeap pendingLeap' : Int) :
      Quorum.choose (c.polledPeers false w) c.quorum = some r →
      Quorum.choose (d.polledPeers false w') d.quorum = some s →
      c'.sleep = c.sleep → d'.sleep = d.sleep →
      c'.clock = { c.clock with pendingLeap } →
      d'.clock = { d.clock with pendingLeap := pendingLeap' } → c.Keeps c' → d.Keeps d' →
      SameEnd c d w w' (.error (.failure (.clockWrite r.offset reason))) c'
        (.error (.failure (.clockWrite s.offset reason'))) d'
  /-- Both clocks are corrected. Unless two eligible samples have the same offset, both references
  are published with the same fault, or with none. -/
  | corrected {r s : Reference} {c' d' : Controller} {fault fault' : Option Fault} :
      Quorum.choose (c.polledPeers false w) c.quorum = some r →
      Quorum.choose (d.polledPeers false w') d.quorum = some s →
      c'.clock = c.clock.corrected r.offset r.sample.leap →
      d'.clock = d.clock.corrected s.offset s.sample.leap →
      (Quorum.Distinct (c.polledPeers false w) → fault = fault') →
      SameEnd c d w w' (publishedResult r fault) c' (publishedResult s fault') d'

/-- What two rounds side by side have in common. -/
structure SameRound (c d : Controller) (w w' : World) : Prop where
  /-- The controllers are alike after the rounds. -/
  alike : Alike (c.cycle w).2.1 (d.cycle w').2.1
  /-- Both have a reference or none, and the offsets of the two have the same value. -/
  found : (Quorum.choose (c.polledPeers false w) c.quorum).map (·.offset.rank) =
    (Quorum.choose (d.polledPeers false w') d.quorum).map (·.offset.rank)
  /-- Both correct their clocks or neither does. -/
  ends : SameEnd c d w w' (c.cycle w).1 (c.cycle w).2.1 (d.cycle w').1 (d.cycle w').2.1
  /-- Unless two eligible samples have the same offset, the chosen sample is the same. -/
  chosen : Quorum.Distinct (c.polledPeers false w) →
    (Quorum.choose (c.polledPeers false w) c.quorum).map Quorum.placed =
      (Quorum.choose (d.polledPeers false w') d.quorum).map Quorum.placed
  /-- Then the figures are the same after a completed round, or if they were the same before. -/
  figures : Quorum.Distinct (c.polledPeers false w) → c.Completes w ∨ c.figures = d.figures →
    (c.cycle w).2.1.figures = (d.cycle w').2.1.figures
  /-- So is the template, if the clocks show the same time. -/
  served : Quorum.Distinct (c.polledPeers false w) → c.Completes w ∨ c.template = d.template →
    w.now = w'.now → (c.cycle w).2.1.template = (d.cycle w').2.1.template

/-- The peers of references at one address are alike. -/
theorem alike_of_placed {peers others : List Peer} (h : Matched peers others)
    (hnodup : (others.map (·.address)).Nodup) {required : Number} {r s : Reference}
    (hr : Quorum.choose peers required = some r) (hs : Quorum.choose others required = some s)
    (hplaced : Quorum.placed r = Quorum.placed s) : r.peer.Alike s.peer := by
  have hmem {peers : List Peer} {t : Reference} (ht : Quorum.choose peers required = some t) :
      t.peer ∈ peers :=
    List.mem_of_getElem? (Quorum.mem_eligible_iff.1 (Quorum.mem_eligible_of_choose ht)).1
  obtain ⟨q, hq, halike⟩ := h.exists_alike (hmem hr)
  have haddress : q.address = s.peer.address :=
    halike.address.symm.trans (congrArg Prod.fst hplaced)
  rwa [List.inj_on_of_nodup_map hnodup hq (hmem hs) haddress] at halike

/-- Rounds of polled controllers that leave the trust and all that is known keep it. -/
theorem keeps_of_eq {c' : Controller} {clock : Clock} {sleep : Binary64}
    (h : c' = { c with
      peers := c.polledPeers false w, cycles := c.cycles + 1, clock, sleep }) : c.Keeps c' := by
  rw [h]
  exact ⟨rfl, rfl, rfl, rfl, rfl, rfl, c.trust_polledPeers false w⟩

/-- Controllers that keep their figures, but for one wait, agree on them as before. -/
theorem figures_of_keeps {c' d' : Controller} (h : c.Keeps c') (h' : d.Keeps d')
    (hsleep : c'.sleep = d'.sleep) (hbefore : c.figures = d.figures) : c'.figures = d'.figures := by
  simp only [figures, Prod.mk.injEq] at hbefore ⊢
  obtain ⟨-, hdelay, hdispersion⟩ := hbefore
  rw [h.delay, h'.delay, h.dispersion, h'.dispersion]
  exact ⟨hsleep, hdelay, hdispersion⟩

/-- Both rounds have a reference, with one offset. Unless two eligible samples have the same offset,
it is the same sample. -/
structure SameChoice (c d : Controller) (w w' : World) (r s : Reference) : Prop where
  left : Quorum.choose (c.polledPeers false w) c.quorum = some r
  right : Quorum.choose (d.polledPeers false w') d.quorum = some s
  rank : r.offset.rank = s.offset.rank
  placed : Quorum.Distinct (c.polledPeers false w) → Quorum.placed r = Quorum.placed s

namespace SameChoice

variable {r s : Reference}

/-- The offsets of the two references have the same value. -/
theorem found (h : SameChoice c d w w' r s) :
    (Quorum.choose (c.polledPeers false w) c.quorum).map (·.offset.rank) =
      (Quorum.choose (d.polledPeers false w') d.quorum).map (·.offset.rank) := by
  rw [h.left, h.right]
  exact congrArg some h.rank

/-- Unless two eligible samples have the same offset, the chosen sample is the same. -/
theorem chosen (h : SameChoice c d w w' r s) (hdistinct : Quorum.Distinct (c.polledPeers false w)) :
    (Quorum.choose (c.polledPeers false w) c.quorum).map Quorum.placed =
      (Quorum.choose (d.polledPeers false w') d.quorum).map Quorum.placed := by
  rw [h.left, h.right]
  exact congrArg some (h.placed hdistinct)

end SameChoice

namespace Alike

/-- Rounds without a reference have everything in common. -/
theorem sameRound_of_none (h : Alike c d)
    (hmatched : Matched (c.polledPeers false w) (d.polledPeers false w'))
    (hr : Quorum.choose (c.polledPeers false w) c.quorum = none)
    (hs : Quorum.choose (d.polledPeers false w') d.quorum = none) : SameRound c d w w' := by
  obtain ⟨hresult, hleft⟩ := cycle_of_choose_none hr
  obtain ⟨hresult', hleft'⟩ := cycle_of_choose_none hs
  have hkeeps : c.Keeps (c.cycle w).2.1 := keeps_of_eq hleft
  have hkeeps' : d.Keeps (d.cycle w').2.1 := keeps_of_eq hleft'
  have hsleep : (c.cycle w).2.1.sleep = (d.cycle w').2.1.sleep := by rw [hleft, hleft', h.pace]
  have hnot : ¬ c.Completes w := by
    intro hcompletes
    obtain ⟨r, hr⟩ := hcompletes
    rw [hresult] at hr
    cases hr
  refine ⟨?_, by rw [hr, hs], ?_, fun _ => by rw [hr, hs], ?_, ?_⟩
  · rw [hleft, hleft']
    exact ⟨h.maxStd, h.forceUpdate, h.quorum, h.pace, h.panicThreshold, h.dryRun, hmatched⟩
  · rw [hresult, hresult']
    exact .noReference hr hs hsleep (by rw [hleft]) (by rw [hleft']) hkeeps hkeeps'
  · intro _ hbefore
    exact figures_of_keeps hkeeps hkeeps' hsleep (hbefore.resolve_left hnot)
  · intro _ hbefore _
    rw [hkeeps.template, hkeeps'.template]
    exact hbefore.resolve_left hnot

/-- Rounds in which both clocks refuse their corrections have everything in common. -/
theorem sameRound_of_refused (h : Alike c d)
    (hmatched : Matched (c.polledPeers false w) (d.polledPeers false w')) {r s : Reference}
    (hchoice : SameChoice c d w w' r s) {reason reason' : String} {pendingLeap pendingLeap' : Int}
    (hc : c.Refuses w r reason pendingLeap) (hd : d.Refuses w' s reason' pendingLeap') :
    SameRound c d w w' := by
  have hkeeps : c.Keeps (c.cycle w).2.1 := keeps_of_eq hc.left
  have hkeeps' : d.Keeps (d.cycle w').2.1 := keeps_of_eq hd.left
  have hsleep : (c.cycle w).2.1.sleep = c.sleep := by rw [hc.left]
  have hsleep' : (d.cycle w').2.1.sleep = d.sleep := by rw [hd.left]
  have hnot : ¬ c.Completes w := by
    intro hcompletes
    obtain ⟨t, ht⟩ := hcompletes
    rw [hc.result] at ht
    cases ht
  refine ⟨?_, hchoice.found, ?_, hchoice.chosen, ?_, ?_⟩
  · rw [hc.left, hd.left]
    exact ⟨h.maxStd, h.forceUpdate, h.quorum, h.pace, h.panicThreshold, h.dryRun, hmatched⟩
  · rw [hc.result, hd.result]
    exact .refused reason reason' pendingLeap pendingLeap' hchoice.left hchoice.right hsleep hsleep'
      (by rw [hc.left]) (by rw [hd.left]) hkeeps hkeeps'
  · intro _ hbefore
    have hfigures := hbefore.resolve_left hnot
    refine figures_of_keeps hkeeps hkeeps' ?_ hfigures
    rw [hsleep, hsleep']
    exact congrArg Prod.fst hfigures
  · intro _ hbefore _
    rw [hkeeps.template, hkeeps'.template]
    exact hbefore.resolve_left hnot

/-- Rounds in which both clocks are corrected have everything in common. -/
theorem sameRound_of_corrected (h : Alike c d)
    (hmatched : Matched (c.polledPeers false w) (d.polledPeers false w'))
    (hnodup : ((d.polledPeers false w').map (·.address)).Nodup) {r s : Reference}
    (hchoice : SameChoice c d w w' r s) {wait wait' : Binary64} {v v' : World}
    (hc : c.Corrects w r wait v) (hd : d.Corrects w' s wait' v') : SameRound c d w w' := by
  have hpublished (hdistinct : Quorum.Distinct (c.polledPeers false w)) := by
    have hplaced := hchoice.placed hdistinct
    have hpeers := alike_of_placed hmatched hnodup (h.quorum ▸ hchoice.left) hchoice.right hplaced
    have hwait : wait = wait' :=
      Pace.wait_eq_of_next hchoice.rank hpeers.trust hc.next (h.pace ▸ hd.next)
    exact publish_congr (c := c.paced w r wait) (d := d.paced w' s wait') v v' hplaced
      hpeers.samples hwait
  obtain ⟨_, _, _, _, _, _, hframe⟩ := hc.frame
  obtain ⟨_, _, _, _, _, _, hframe'⟩ := hd.frame
  refine ⟨?_, hchoice.found, ?_, hchoice.chosen, ?_, ?_⟩
  · have hpeers : Matched ((c.polledPeers false w).map (c.pace.adjust (some r)))
        ((d.polledPeers false w').map (d.pace.adjust (some s))) := by
      rw [← h.pace]
      exact hmatched.map fun p _ q halike => c.pace.alike_adjust hchoice.rank halike
    rw [hframe, hframe']
    exact ⟨h.maxStd, h.forceUpdate, h.quorum, h.pace, h.panicThreshold, h.dryRun, hpeers⟩
  · have hclock : (c.cycle w).2.1.clock = c.clock.corrected r.offset r.sample.leap := by
      rw [hframe]
      rfl
    have hclock' : (d.cycle w').2.1.clock = d.clock.corrected s.offset s.sample.leap := by
      rw [hframe']
      rfl
    rw [hc.result, hd.result]
    exact .corrected hchoice.left hchoice.right hclock hclock' fun hdistinct =>
      (hpublished hdistinct).1
  · intro hdistinct hbefore
    rw [hc.left, hd.left]
    refine (hpublished hdistinct).2.1 ?_
    rcases hbefore with hcompletes | hfigures
    · exact .inl (hcompletes.fault_eq_none hc.result)
    · exact .inr (congrArg (·.2.2) hfigures)
  · intro hdistinct hbefore hclock
    rw [hc.left, hd.left]
    refine (hpublished hdistinct).2.2 ?_ ?_
    · rcases hbefore with hcompletes | htemplate
      · exact .inl (hcompletes.fault_eq_none hc.result)
      · exact .inr htemplate
    · -- Both clocks are set forward by the same number, or neither is touched.
      have hoffset : r.offset = s.offset :=
        congrArg (fun placed => placed.2.offset) (hchoice.placed hdistinct)
      rw [hc.now, hd.now, hclock, hoffset, h.dryRun]

/-- Rounds of controllers that are alike, with the same answers, have everything in common. -/
theorem sameRound (h : Alike c d) (hc : Reachable c) (hd : Reachable d) {low high : Int}
    (hwhole : c.pace.Whole low high) (hsame : c.SameAnswers w w')
    (hfault : w.clockFault.isNone = w'.clockFault.isNone) : SameRound c d w w' := by
  have hmatched := h.matched_polledPeers hc hd hsame
  have hfound := Quorum.rank_of_choose hmatched c.quorum
  have hnodup : ((d.polledPeers false w').map (·.address)).Nodup := by
    rw [map_polledPeers (·.address) (fun _ _ _ _ => Peer.address_polled)]
    exact nodup_of_reachable hd
  cases hr : Quorum.choose (c.polledPeers false w) c.quorum with
  | none =>
    rw [hr, h.quorum] at hfound
    exact h.sameRound_of_none hmatched hr (Option.map_eq_none_iff.1 hfound.symm)
  | some r =>
    rw [hr, h.quorum] at hfound
    obtain ⟨s, hs, hrank⟩ := Option.map_eq_some_iff.1 hfound.symm
    have hchoice : SameChoice c d w w' r s :=
      ⟨hr, hs, hrank.symm, fun hdistinct =>
        Quorum.placed_eq_of_choose hmatched hdistinct hr (h.quorum ▸ hs)⟩
    -- The two clocks accept their corrections together.
    have haccepts : c.clock.accepts r.offset c.config.forceUpdate.isSet w =
        d.clock.accepts s.offset d.config.forceUpdate.isSet w' := by
      unfold Clock.accepts
      rw [h.forceUpdate, h.panicThreshold, h.dryRun, hfault,
        (Binary64.lt_abs_congr hchoice.rank _).2]
    have hwhole' : d.pace.Whole low high := h.pace ▸ hwhole
    rcases refuses_or_corrects hwhole hr (leap_of_choose hc hr) with
      ⟨hno, reason, pendingLeap, href⟩ | ⟨hyes, wait, v, hcor⟩
    · rcases refuses_or_corrects hwhole' hs (leap_of_choose hd hs) with
        ⟨-, reason', pendingLeap', href'⟩ | ⟨hyes, -⟩
      · exact h.sameRound_of_refused hmatched hchoice href href'
      · rw [haccepts, hyes] at hno
        cases hno
    · rcases refuses_or_corrects hwhole' hs (leap_of_choose hd hs) with
        ⟨hno, -⟩ | ⟨-, wait', v', hcor'⟩
      · rw [haccepts, hno] at hyes
        cases hyes
      · exact h.sameRound_of_corrected hmatched hnodup hchoice hcor hcor'

end Alike

end

end Controller

end Concord
