import Concord.Proofs.PeerRound

/-!
# The result of one peer's round

When no request comes to a fault, only an outcome that cuts the peer off ends its round early. The
place of the first such outcome (`firstCut?`) says how many requests the round makes, which samples
the peer has afterwards and whether it is asked again. The samples say whether it is healthy: their
offsets are finite, so they have a deviation, and it is compared with a limit that is a number.

The main statement is `update_exactly`, which says all of this for any outcomes in any order.
-/

namespace Concord

/-! ## Limits and deviations -/

/-- A number that is no not-a-number equals itself. -/
theorem Number.le_self {n : Number} (h : n ≠ .real .nan) : n.le n = true := by
  have hposition : n.position? ≠ none := by
    cases n with
    | int z => exact Option.some_ne_none _
    | real x =>
      cases x with
      | nan => exact absurd rfl h
      | infinite | finite => exact Option.some_ne_none _
  obtain ⟨place, hplace⟩ := Option.ne_none_iff_exists'.1 hposition
  simp [le, hplace]

namespace Binary64

/-- A rounded ratio is a number. -/
theorem ofUnitRatio_ne_nan (negative : Bool) (n d : Nat) : ofUnitRatio negative n d ≠ nan := by
  unfold ofUnitRatio
  split <;> exact Binary64.noConfusion

/-- A rounded root is a number. -/
theorem ofUnitRoot_ne_nan (n d : Nat) : ofUnitRoot n d ≠ nan := by
  simp only [ofUnitRoot]
  split <;> exact ofUnitRatio_ne_nan _ _ _

end Binary64

/-- Finite offsets have a deviation, and it is a number. -/
theorem exists_deviation {offsets : List Binary64} (h : ∀ x ∈ offsets, x.isFinite = true) :
    ∃ deviation, deviation? offsets = some deviation ∧ deviation ≠ .nan := by
  have hsome : deviation? offsets ≠ none := by
    rw [Ne, deviation?_eq_none_iff]
    rintro ⟨x, hx, hunits⟩
    have hfinite := h x hx
    cases x with
    | finite => cases hunits
    | nan | infinite => cases hfinite
  obtain ⟨deviation, hdeviation⟩ := Option.ne_none_iff_exists'.1 hsome
  refine ⟨deviation, hdeviation, ?_⟩
  obtain ⟨values, -, rfl⟩ := Option.map_eq_some_iff.1 hdeviation
  exact Binary64.ofUnitRoot_ne_nan _ _

/-- The offsets of samples that make a peer healthy: there are some, and several of them deviate by
no more than the limit. -/
def Steady (limit : Number) (offsets : List Binary64) : Prop :=
  offsets ≠ [] ∧ (2 ≤ offsets.length →
    ∃ deviation, deviation? offsets = some deviation ∧ (Number.real deviation).le limit = true)

section

variable {limit : Number} {maxStd : Document}

/-- A deviation is judged by comparing it with the limit. One that exceeds it is reported with it, so
the limit is in the range of binary64. -/
theorem exists_judgeDeviation {deviation : Binary64} (hdeviation : deviation ≠ .nan)
    (hlimit : limit ≠ .real .nan) (hrange : limit.isTooLarge = false) :
    ∃ verdict, judgeDeviation deviation limit = .ok verdict ∧
      (verdict = none ↔ (Number.real deviation).le limit = true) := by
  cases hlt : limit.lt (.real deviation) with
  | true =>
    refine ⟨some (.spread deviation limit), by simp [judgeDeviation, hlt, hrange], ?_⟩
    constructor
    · intro h
      cases h
    · intro hle
      rw [Number.lt_eq_false_of_le hle] at hlt
      cases hlt
  | false =>
    have hself := Number.le_self (n := .real deviation) (by simpa using hdeviation)
    refine ⟨none, by simp [judgeDeviation, hlt], ?_⟩
    simpa using Number.le_of_lt_eq_false (Number.le_self hlimit) hself hlt

/-- Finite offsets can always be judged, and nothing is said against them when they are steady. -/
theorem exists_judge {offsets : List Binary64} (hfinite : ∀ x ∈ offsets, x.isFinite = true)
    (hnumber : maxStd.number? = some limit) (hlimit : limit ≠ .real .nan)
    (hrange : limit.isTooLarge = false) :
    ∃ verdict, judge offsets maxStd = .ok verdict ∧ (verdict = none ↔ Steady limit offsets) := by
  match offsets with
  | [] => exact ⟨some .noSamples, rfl, by simp [Steady]⟩
  | [x] => exact ⟨none, rfl, by simp [Steady]⟩
  | x :: y :: rest =>
    obtain ⟨deviation, hdeviation, hnan⟩ := exists_deviation hfinite
    obtain ⟨verdict, hverdict, hiff⟩ := exists_judgeDeviation hnan hlimit hrange
    have hfor : maxStd.limitFor ">" = .ok limit := by simp [Document.limitFor, hnumber]
    refine ⟨verdict, ?_, ?_⟩
    · simp only [judge, hdeviation, hfor]
      exact hverdict
    · simp [hiff, Steady, hdeviation]

end

/-! ## The outcome that cuts a peer off -/

/-- The outcome is a sample with a finite offset or a failure of the network: it is no fault. -/
def Outcome.isOrdinary : Outcome → Bool
  | sample s => s.offset.isFinite
  | silence | protocol _ | system _ => true
  | fault _ => false

/-- An ordinary outcome is no fault. -/
theorem Outcome.fault?_of_isOrdinary {o : Outcome} (h : o.isOrdinary = true) : o.fault? = none := by
  cases o with
  | fault => cases h
  | sample | silence | protocol | system => rfl

/-- The place of the first outcome that cuts the peer off. -/
def firstCut? (setup : Bool) (outcomes : List Outcome) : Option Nat :=
  outcomes.findIdx? (·.cutsOff setup)

/-- The number of outcomes heard: those up to the first that cuts the peer off, or all. -/
def heardCount (setup : Bool) (outcomes : List Outcome) : Nat :=
  (firstCut? setup outcomes).elim outcomes.length (· + 1)

/-- The samples kept of the outcomes in front of the first that cuts the peer off. -/
def keptBeforeCut (setup : Bool) (outcomes : List Outcome) : List Sample :=
  kept (outcomes.take ((firstCut? setup outcomes).getD outcomes.length))

section

variable {setup : Bool} {outcomes : List Outcome}

/-- What is heard is among the outcomes. -/
theorem mem_of_mem_heard {o : Outcome} (h : o ∈ heard setup outcomes) : o ∈ outcomes := by
  induction outcomes with
  | nil => cases h
  | cons first rest ih =>
    rw [heard] at h
    obtain rfl | h := List.mem_cons.1 h
    · exact List.mem_cons_self
    · split at h
      · cases h
      · exact List.mem_cons_of_mem first (ih h)

/-- A first outcome that cuts the peer off is the place of the cut. -/
theorem firstCut?_cons_of_cut {o : Outcome} (h : o.cutsOff setup = true) :
    firstCut? setup (o :: outcomes) = some 0 := by
  simp [firstCut?, List.findIdx?_cons, h]

/-- Behind an outcome that does not cut the peer off the place of the cut is one further. -/
theorem firstCut?_cons {o : Outcome} (h : o.cutsOff setup = false) :
    firstCut? setup (o :: outcomes) = (firstCut? setup outcomes).map (· + 1) := by
  simp [firstCut?, List.findIdx?_cons, h]

/-- Without faults a round goes on to the first outcome that cuts the peer off, of which no sample
is kept. -/
theorem heard_to_cut (setup : Bool) (h : ∀ o ∈ outcomes, o.fault? = none) :
    (heard setup outcomes).length = heardCount setup outcomes ∧
      kept (heard setup outcomes) = keptBeforeCut setup outcomes ∧
      (heard setup outcomes).any (·.cutsOff setup) = (firstCut? setup outcomes).isSome := by
  induction outcomes with
  | nil => exact ⟨rfl, rfl, rfl⟩
  | cons o rest ih =>
    obtain ⟨ho, hrest⟩ := List.forall_mem_cons.1 h
    have hlast : o.isLast setup = o.cutsOff setup := by simp [Outcome.isLast, ho]
    cases hcut : o.cutsOff setup with
    | true =>
      have hkept : o.kept? = none := by
        cases o with
        | system => rfl
        | sample | silence | protocol | fault => cases hcut
      simp [heard, heardCount, keptBeforeCut, kept, firstCut?_cons_of_cut hcut, hlast, hcut, hkept]
    | false =>
      obtain ⟨hlength, hkept, hany⟩ := ih hrest
      have hheard : heard setup (o :: rest) = o :: heard setup rest := by
        simp [heard, hlast, hcut]
      rw [hheard, heardCount, keptBeforeCut, firstCut?_cons hcut, List.length_cons,
        List.any_cons, hcut, hlength, hany]
      rw [kept, List.filterMap_cons, ← kept, hkept]
      cases hfirst : firstCut? setup rest <;>
        simp [heardCount, keptBeforeCut, hfirst, kept, List.filterMap_cons]

end

/-! ## The round -/

namespace Peer

section

variable (p : Peer) (maxStd : Document) (setup : Bool) (w : World)

/-- A round in which no request comes to a fault ends with a judgement on what was gathered. -/
theorem update_eq_assess {count : Int} (hcount : p.maxSamples = .int count)
    (hfaults : ∀ o ∈ p.outcomes setup w, o.fault? = none) :
    ∃ w', p.update maxStd setup w =
        p.assess ((p.outcomes setup w).foldl (p.hear setup) {}) maxStd w' ∧
      w'.events = w.events ++
        List.replicate (p.outcomes setup w).length (.query p.address p.port p.timeout) := by
  have houtcomes : p.outcomes setup w =
      heard setup (Script.upcoming count.toNat (w.script p.address)) := by
    simp [outcomes, requestCount, hcount]
  obtain ⟨hgather, hevents⟩ := p.gather_eq setup count.toNat (g := {}) w rfl
  rw [← houtcomes] at hgather hevents
  have hfault := (p.fault_foldl_hear_eq_none setup (p.outcomes setup w) {}).2 ⟨rfl, hfaults⟩
  rw [← hgather] at hfault ⊢
  refine ⟨(p.gather setup count.toNat {} w).2, ?_, hevents⟩
  rcases hrun : p.gather setup count.toNat {} w with ⟨⟨samples, lastError, unreachable, fault⟩, w'⟩
  rw [hrun] at hfault
  obtain rfl : fault = none := hfault
  simp only [update, hcount, hrun]

/-- A judgement that can be made replaces the samples and says whether the peer is healthy. -/
theorem exists_assess {g : Gathering} {verdict : Option Unusable}
    (h : judge (g.samples.map (·.offset)) maxStd = .ok verdict) :
    ∃ healthy lastError w', p.assess g maxStd w =
        (none, { p with
          enabled := p.enabled && !g.unreachable, samples := g.samples, healthy, lastError }, w') ∧
      w'.events = w.events ∧ (healthy = true ↔ verdict = none) := by
  cases verdict with
  | none => exact ⟨true, g.lastError, w, by simp [assess, offsets, h], rfl, by simp⟩
  | some unusable =>
    let message := (Failure.peerUnhealthy p.address unusable.message).message
    refine ⟨false, some unusable.message, w.note .debug .peers message, ?_, rfl, by simp⟩
    simp only [assess, offsets, h, message]

end

/-- The result of a round in which every request is answered or fails in the network: the first
outcome that cuts the peer off says how often it is asked, which samples it has and whether it stays
enabled, and the samples say whether it is healthy. Nothing else of the peer changes but its last
failure. -/
theorem update_exactly {p : Peer} {count : Int} {maxStd : Document} {limit : Number}
    (setup : Bool) {w : World} {outcomes : List Outcome} (hcount : p.maxSamples = .int count)
    (hnumber : maxStd.number? = some limit) (hlimit : limit ≠ .real .nan)
    (hrange : limit.isTooLarge = false)
    (houtcomes : Script.upcoming count.toNat (w.script p.address) = outcomes)
    (hordinary : ∀ o ∈ outcomes, o.isOrdinary = true) :
    ∃ healthy lastError w',
      p.update maxStd setup w =
        (none, { p with
          enabled := p.enabled && (firstCut? setup outcomes).isNone
          samples := keptBeforeCut setup outcomes, healthy, lastError }, w') ∧
      w'.events = w.events ++
        List.replicate (heardCount setup outcomes) (.query p.address p.port p.timeout) ∧
      (healthy = true ↔ Steady limit ((keptBeforeCut setup outcomes).map (·.offset))) := by
  have hheard : p.outcomes setup w = heard setup outcomes := by
    simp [Peer.outcomes, requestCount, hcount, houtcomes]
  have hfaults : ∀ o ∈ outcomes, o.fault? = none := fun o ho =>
    Outcome.fault?_of_isOrdinary (hordinary o ho)
  obtain ⟨hlength, hkept, hcut⟩ := heard_to_cut setup hfaults
  -- The requests stop at the cut, and what they gather is judged.
  obtain ⟨between, hupdate, hqueries⟩ := p.update_eq_assess maxStd setup w hcount
    (by rw [hheard]; exact fun o ho => hfaults o (mem_of_mem_heard ho))
  rw [hheard] at hupdate hqueries
  have hsamples := p.samples_foldl_hear setup (heard setup outcomes) {}
  have hunreachable := p.unreachable_foldl_hear setup (heard setup outcomes) {}
  rw [hkept, List.nil_append] at hsamples
  rw [hcut, Bool.false_or] at hunreachable
  -- The offsets kept are finite, so the judgement can be made.
  have hfinite : ∀ x ∈ (keptBeforeCut setup outcomes).map (·.offset), x.isFinite = true := by
    intro x hx
    obtain ⟨s, hs, rfl⟩ := List.mem_map.1 hx
    exact hordinary _ (List.mem_of_mem_take (mem_outcomes_of_mem_kept hs))
  obtain ⟨verdict, hverdict, hsteady⟩ := exists_judge hfinite hnumber hlimit hrange
  rw [← hsamples] at hverdict
  obtain ⟨healthy, lastError, w', hassess, hevents, hhealthy⟩ :=
    p.exists_assess maxStd between hverdict
  refine ⟨healthy, lastError, w', ?_, ?_, hhealthy.trans hsteady⟩
  · rw [hupdate, hassess, hsamples, hunreachable, Option.not_isSome]
  · rw [hevents, hqueries, hlength]

/-- A sample with the given offset in milliseconds of a source of the given stratum. -/
def sampleOf (milliseconds : Nat) (stratum : Int) : Sample :=
  ⟨.ofDecimal false milliseconds (-3), stratum, 0, .zero, .zero, .zero, 0, .zero⟩

/-- A peer that is asked five times in a round and has a sample of an earlier one. -/
def askedFiveTimes : Peer :=
  { origin := "a", address := "192.0.2.1", maxSamples := .int 5, samples := [sampleOf 9 2] }

/-- A world in which the route to the peer is lost after three answers, of which the second one is
rejected. -/
def routeLostAfterThree : World :=
  { network := [("192.0.2.1", { items := [.sample (sampleOf 1 2), .sample (sampleOf 2 0),
      .sample (sampleOf 3 2), .system ⟨some 101, some "Network is unreachable"⟩,
      .sample (sampleOf 4 2)] })] }

/-- While the daemon starts, the peer is asked four times and then no more. It has the two samples
that are not rejected, which deviate by a millisecond. -/
theorem exactly_routeLostAfterThree : ∃ lastError w',
    askedFiveTimes.update (.real (.ofDecimal false 1 (-3))) true routeLostAfterThree =
      (none, { askedFiveTimes with
        enabled := false, healthy := true, samples := [sampleOf 1 2, sampleOf 3 2], lastError },
        w') ∧
    w'.events = List.replicate 4 (.query "192.0.2.1" standardPort askedFiveTimes.timeout) := by
  have hsteady : Steady (.real (.ofDecimal false 1 (-3)))
      ([sampleOf 1 2, sampleOf 3 2].map (·.offset)) :=
    ⟨by simp, fun _ => ⟨_, (Option.some_get (by decide +kernel)).symm, by decide +kernel⟩⟩
  have hnumber : (Document.real (.ofDecimal false 1 (-3))).number? =
      some (.real (.ofDecimal false 1 (-3))) := rfl
  have hanswers : Script.upcoming 5 (routeLostAfterThree.script "192.0.2.1") =
      [.sample (sampleOf 1 2), .sample (sampleOf 2 0), .sample (sampleOf 3 2),
        .system ⟨some 101, some "Network is unreachable"⟩, .sample (sampleOf 4 2)] := rfl
  obtain ⟨healthy, lastError, w', hupdate, hevents, hhealthy⟩ :=
    update_exactly (p := askedFiveTimes) true (rfl : _ = Number.int 5) hnumber (by decide +kernel)
      rfl hanswers (by decide +kernel)
  obtain rfl : healthy = true := hhealthy.2 hsteady
  exact ⟨lastError, w', hupdate, hevents⟩

end Peer

end Concord
