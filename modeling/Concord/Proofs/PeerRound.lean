import Concord.Peer.Round

/-!
# What a round makes of a peer

The requests of a peer's round come back with the next items of the script of its address, up to the
first one after which nothing is asked any more (`Peer.outcomes`). What becomes of the peer depends
on itself and these outcomes alone: `Peer.polled` says what, and `pollPeers_fst` says that a round
makes exactly this of every peer.

The other main statements are `healthy_polled_iff`, when a peer is healthy after a round,
`samples_of_healthy`, that its samples are then those it was given in this round, and
`events_pollPeers`, that the outcomes of a round are those of the requests that it makes.
-/

namespace Concord

/-! ## Outcomes -/

/-- A sample is not rejected when its stratum is that of a source and it is synchronized. -/
theorem Sample.rejection?_eq_none {s : Sample} :
    s.rejection? = none ↔ s.stratum ≠ 0 ∧ s.stratum < invalidStratum ∧ s.leap ≠ leapAlarm := by
  unfold rejection?
  by_cases hzero : s.stratum = 0
  · simp [hzero]
  · by_cases hlarge : invalidStratum ≤ s.stratum
    · simp [hzero, hlarge, Int.not_lt.2 hlarge]
    · by_cases halarm : s.leap = leapAlarm
      · simp [hzero, hlarge, halarm]
      · simp [hzero, hlarge, halarm, Int.not_le.1 hlarge]

namespace Outcome

/-- The outcome shows that the address is out of reach, which counts only while the daemon
starts. -/
def cutsOff (setup : Bool) : Outcome → Bool
  | system error => setup && error.unreachable
  | _ => false

/-- The fault that a request came to, if it did. -/
def fault? : Outcome → Option Fault
  | fault f => some f
  | _ => none

/-- No request of a round follows one with this outcome. -/
def isLast (setup : Bool) (o : Outcome) : Bool := o.cutsOff setup || o.fault?.isSome

/-- The sample that a peer keeps of an outcome. -/
def kept? : Outcome → Option Sample
  | sample s => if s.rejection? = none then some s else none
  | _ => none

/-- What is kept is the sample that the request came back with, and it is not rejected. -/
theorem kept?_eq_some {o : Outcome} {s : Sample} :
    o.kept? = some s ↔ o = sample s ∧ s.rejection? = none := by
  cases o with
  | sample t =>
    simp only [kept?, sample.injEq]
    constructor
    · intro h
      split at h
      · cases h
        exact ⟨rfl, by assumption⟩
      · cases h
    · rintro ⟨rfl, h⟩
      rw [if_pos h]
  | silence | protocol | system | fault => simp [kept?]

end Outcome

/-- The samples that are kept of outcomes, in order. -/
def kept (outcomes : List Outcome) : List Sample := outcomes.filterMap Outcome.kept?

/-- The samples kept are samples among the outcomes. -/
theorem mem_outcomes_of_mem_kept {outcomes : List Outcome} {s : Sample} (h : s ∈ kept outcomes) :
    .sample s ∈ outcomes := by
  obtain ⟨o, ho, hkept⟩ := List.mem_filterMap.1 h
  obtain ⟨rfl, -⟩ := Outcome.kept?_eq_some.1 hkept
  exact ho

/-- The samples kept are not rejected. -/
theorem rejection?_of_mem_kept {outcomes : List Outcome} {s : Sample} (h : s ∈ kept outcomes) :
    s.rejection? = none := by
  obtain ⟨o, -, hkept⟩ := List.mem_filterMap.1 h
  exact (Outcome.kept?_eq_some.1 hkept).2

/-- The next outcomes of a script. -/
def Script.upcoming : Nat → Script → List Outcome
  | 0, _ => []
  | n + 1, s => s.next.1 :: Script.upcoming n s.next.2

/-- The outcomes up to the first after which nothing is asked any more. -/
def heard (setup : Bool) : List Outcome → List Outcome
  | [] => []
  | o :: rest => o :: if o.isLast setup then [] else heard setup rest

/-- In a later round only a fault is the last outcome early. -/
theorem not_cutsOff_false (o : Outcome) : o.cutsOff false = false := by cases o <;> rfl

/-- What is heard ends with the outcome after which nothing is asked any more. -/
theorem heard_eq_of_isLast {setup : Bool} {outcomes : List Outcome} {o : Outcome}
    (ho : o ∈ heard setup outcomes) (hlast : o.isLast setup = true) :
    ∃ before, heard setup outcomes = before ++ [o] ∧ ∀ e ∈ before, e.isLast setup = false := by
  induction outcomes with
  | nil => cases ho
  | cons first rest ih =>
    cases hfirst : first.isLast setup with
    | true =>
      have hheard : heard setup (first :: rest) = [first] := by simp [heard, hfirst]
      rw [hheard] at ho ⊢
      obtain rfl := List.mem_singleton.1 ho
      exact ⟨[], rfl, by simp⟩
    | false =>
      have hheard : heard setup (first :: rest) = first :: heard setup rest := by
        simp [heard, hfirst]
      rw [hheard] at ho ⊢
      -- The last outcome is not the first one, which does not end the round.
      obtain rfl | ho := List.mem_cons.1 ho
      · rw [hfirst] at hlast
        cases hlast
      · obtain ⟨before, heq, hbefore⟩ := ih ho
        refine ⟨first :: before, by rw [heq]; rfl, ?_⟩
        intro e he
        obtain rfl | he := List.mem_cons.1 he
        · exact hfirst
        · exact hbefore e he

/-- Of the outcomes that end a round at most one is heard: an address out of reach leaves no
fault. -/
theorem fault?_of_cutsOff {setup : Bool} {outcomes : List Outcome} {o e : Outcome}
    (ho : o ∈ heard setup outcomes) (hcut : o.cutsOff setup = true)
    (he : e ∈ heard setup outcomes) : e.fault? = none := by
  have hlast : o.isLast setup = true := by simp [Outcome.isLast, hcut]
  obtain ⟨before, heq, hbefore⟩ := heard_eq_of_isLast ho hlast
  rw [heq] at he
  obtain he | he := List.mem_append.1 he
  · have := hbefore e he
    simp only [Outcome.isLast, Bool.or_eq_false_iff, Option.isSome_eq_false_iff,
      Option.isNone_iff_eq_none] at this
    exact this.2
  · obtain rfl := List.mem_singleton.1 he
    cases e with
    | fault f => cases hcut
    | sample | silence | protocol | system => rfl

/-! ## The requests of one peer -/

namespace World

/-- A request comes back with the next outcome of the address. -/
theorem ask_fst (w : World) (address : String) (port : Int) (timeout : Document) :
    (w.ask address port timeout).1 = (w.script address).next.1 := rfl

/-- The script set for an address is its script. -/
theorem find?_setScript (network : List (String × Script)) (address : String) (script : Script) :
    (setScript network address script).find? (·.1 = address) = some (address, script) := by
  induction network with
  | nil => simp [setScript]
  | cons entry rest ih =>
    by_cases h : entry.1 = address
    · simp [setScript, h]
    · simp [setScript, h, ih]

/-- A request takes one outcome from the script of its address. -/
theorem script_ask (w : World) (address : String) (port : Int) (timeout : Document) :
    (w.ask address port timeout).2.script address = (w.script address).next.2 := by
  have h : (w.ask address port timeout).2.network =
      setScript w.network address (w.script address).next.2 := rfl
  simp only [script] at h ⊢
  rw [h, find?_setScript]
  rfl

end World

namespace Peer

/-- What an outcome adds to a round under way. -/
def hear (p : Peer) (setup : Bool) (g : Gathering) : Outcome → Gathering
  | .sample s =>
    match s.rejection? with
    | none => { g with samples := g.samples ++ [s] }
    | some rejection => { g with lastError := some rejection.message }
  | .system error =>
    { g with
      lastError := some error.message, unreachable := g.unreachable || setup && error.unreachable }
  | .silence => { g with lastError := some ("No response received from " ++ p.address ++ ".") }
  | .protocol text =>
    { g with
      lastError := some (match text.getD "" with
        | "" => Fault.packet.className
        | text => text) }
  | .fault fault => { g with fault := some fault }

/-- The journal's record of an outcome. -/
def noteOutcome (p : Peer) (setup : Bool) (o : Outcome) (w : World) : World :=
  match o with
  | .sample s =>
    match s.rejection? with
    | none => w
    | some rejection =>
      w.note .debug .peers ("peer " ++ p.id ++ " sample rejected: " ++ rejection.message)
  | .system error =>
    if setup && error.unreachable then
      w.note .warning .peers ("peer " ++ p.id ++ " unreachable, disabled: " ++ error.message)
    else p.noteFailure error.message w
  | .silence => p.noteFailure ("No response received from " ++ p.address ++ ".") w
  | .protocol text =>
    p.noteFailure (match text.getD "" with
      | "" => Fault.packet.className
      | text => text) w
  | .fault _ => w

/-- Records in the journal leave the scripts alone. -/
theorem script_noteOutcome (p : Peer) (setup : Bool) (o : Outcome) (w : World) :
    (p.noteOutcome setup o w).script = w.script := by
  cases o with
  | sample s => simp only [noteOutcome]; split <;> rfl
  | system error => simp only [noteOutcome]; split <;> rfl
  | silence | protocol | fault => rfl

/-- Records in the journal are no events. -/
theorem events_noteOutcome (p : Peer) (setup : Bool) (o : Outcome) (w : World) :
    (p.noteOutcome setup o w).events = w.events := by
  cases o with
  | sample s => simp only [noteOutcome]; split <;> rfl
  | system error => simp only [noteOutcome]; split <;> rfl
  | silence | protocol | fault => rfl

/-- One request: its outcome is added, and nothing more is asked when it is the last one. -/
theorem gather_succ (p : Peer) (setup : Bool) (n : Nat) {g : Gathering} (w : World)
    (hg : g.unreachable = false) {o : Outcome} {w' : World}
    (hask : w.ask p.address p.port p.timeout = (o, w')) :
    p.gather setup (n + 1) g w =
      if o.isLast setup then (p.hear setup g o, p.noteOutcome setup o w')
      else p.gather setup n (p.hear setup g o) (p.noteOutcome setup o w') := by
  cases o with
  | sample s =>
    cases hr : s.rejection? <;>
      simp [gather, hask, hear, noteOutcome, hr, Outcome.isLast, Outcome.cutsOff, Outcome.fault?]
  | system error =>
    cases hcut : setup && error.unreachable <;>
      simp [gather, hask, hear, noteOutcome, hcut, hg, Outcome.isLast, Outcome.cutsOff,
        Outcome.fault?]
  | silence => simp only [gather, hask]; rfl
  | protocol text => simp only [gather, hask]; rfl
  | fault f => simp only [gather, hask]; rfl

/-- Only an outcome that cuts the peer off is remembered as one. -/
theorem unreachable_hear (p : Peer) (setup : Bool) (g : Gathering) (o : Outcome) :
    (p.hear setup g o).unreachable = (g.unreachable || o.cutsOff setup) := by
  cases o with
  | sample s => simp only [hear, Outcome.cutsOff]; split <;> simp
  | silence | protocol | system | fault => simp [hear, Outcome.cutsOff]

/-- The requests of a round gather what the outcomes heard add, and are the events of the round. -/
theorem gather_eq (p : Peer) (setup : Bool) (n : Nat) {g : Gathering} (w : World)
    (hg : g.unreachable = false) :
    (p.gather setup n g w).1 =
        (heard setup (Script.upcoming n (w.script p.address))).foldl (p.hear setup) g ∧
      (p.gather setup n g w).2.events = w.events ++ List.replicate
        (heard setup (Script.upcoming n (w.script p.address))).length
        (.query p.address p.port p.timeout) := by
  -- As long as something is asked, nothing so far has shown the peer to be out of reach.
  induction n generalizing g w with
  | zero => simp [gather, Script.upcoming, heard]
  | succ n ih =>
    have hfst := World.ask_fst w p.address p.port p.timeout
    have hscript := World.script_ask w p.address p.port p.timeout
    have hevents := World.ask_events w p.address p.port p.timeout
    rcases hask : w.ask p.address p.port p.timeout with ⟨o, w'⟩
    rw [hask] at hfst hscript hevents
    simp only at hfst hscript hevents
    rw [gather_succ p setup n w hg hask, Script.upcoming, ← hfst, heard]
    cases hlast : o.isLast setup with
    | true => simp [events_noteOutcome, hevents]
    | false =>
      have hcut : o.cutsOff setup = false := by
        simp only [Outcome.isLast, Bool.or_eq_false_iff] at hlast
        exact hlast.1
      have hnext : (p.hear setup g o).unreachable = false := by
        rw [unreachable_hear, hg, hcut]
        rfl
      obtain ⟨hgather, hmore⟩ := ih (p.noteOutcome setup o w') hnext
      rw [script_noteOutcome, hscript] at hgather hmore
      refine ⟨by simpa using hgather, ?_⟩
      simpa [events_noteOutcome, hevents, List.replicate_succ] using hmore

/-! ## What is gathered -/

/-- The samples gathered are those kept. -/
theorem samples_foldl_hear (p : Peer) (setup : Bool) (outcomes : List Outcome) (g : Gathering) :
    (outcomes.foldl (p.hear setup) g).samples = g.samples ++ kept outcomes := by
  induction outcomes generalizing g with
  | nil => simp [kept]
  | cons o rest ih =>
    have hone : (p.hear setup g o).samples = g.samples ++ o.kept?.toList := by
      cases o with
      | sample s => cases hr : s.rejection? <;> simp [hear, Outcome.kept?, hr]
      | silence | protocol | system | fault => simp [hear, Outcome.kept?]
    rw [List.foldl_cons, ih, hone]
    cases hkept : o.kept? <;> simp [kept, hkept]

/-- The peer is out of reach when one of the outcomes says so. -/
theorem unreachable_foldl_hear (p : Peer) (setup : Bool) (outcomes : List Outcome)
    (g : Gathering) :
    (outcomes.foldl (p.hear setup) g).unreachable =
      (g.unreachable || outcomes.any (·.cutsOff setup)) := by
  induction outcomes generalizing g with
  | nil => simp
  | cons o rest ih => rw [List.foldl_cons, ih, unreachable_hear, List.any_cons, Bool.or_assoc]

/-- There is a fault when one of the outcomes is one. -/
theorem fault_foldl_hear_eq_none (p : Peer) (setup : Bool) (outcomes : List Outcome)
    (g : Gathering) :
    (outcomes.foldl (p.hear setup) g).fault = none ↔
      g.fault = none ∧ ∀ o ∈ outcomes, o.fault? = none := by
  induction outcomes generalizing g with
  | nil => simp
  | cons o rest ih =>
    have hone : (p.hear setup g o).fault = none ↔ g.fault = none ∧ o.fault? = none := by
      cases o with
      | sample s => simp only [hear, Outcome.fault?]; split <;> simp
      | silence | protocol | system | fault => simp [hear, Outcome.fault?]
    rw [List.foldl_cons, ih, hone, List.forall_mem_cons, and_assoc]

/-! ## One peer's round -/

/-- The number of requests in a round of the peer. -/
def requestCount (p : Peer) : Nat :=
  match p.maxSamples with
  | .int count => count.toNat
  | .real _ => 0

/-- What the requests of the peer's round come back with. -/
def outcomes (p : Peer) (setup : Bool) (w : World) : List Outcome :=
  heard setup (Script.upcoming p.requestCount (w.script p.address))

/-- The peer with the samples gathered, judged. A judgement that cannot be made is a fault. -/
def judged (p : Peer) (g : Gathering) (maxStd : Document) : Peer :=
  let p := { p with
    samples := g.samples, lastError := g.lastError, enabled := p.enabled && !g.unreachable }
  match judge p.offsets maxStd with
  | .error fault => p.afterFault fault
  | .ok none => { p with healthy := true }
  | .ok (some unusable) => { p with healthy := false, lastError := some unusable.message }

/-- The peer after a round in which its requests came back with the given outcomes. -/
def afterRound (p : Peer) (maxStd : Document) (setup : Bool) (outcomes : List Outcome) : Peer :=
  match p.maxSamples with
  | .real x => p.afterFault (.notWhole (.real x))
  | .int _ =>
    let g := outcomes.foldl (p.hear setup) {}
    match g.fault with
    | some fault => p.afterFault fault
    | none => p.judged g maxStd

/-- The peer after the fault of its round, if there was one, was dealt with. -/
def settled : Peer × Option Fault → Peer
  | (p, none) => p
  | (p, some fault) => p.afterFault fault

/-- A round makes of a peer what its outcomes say, and its requests are its events. -/
theorem update_eq (p : Peer) (maxStd : Document) (setup : Bool) (w : World) :
    settled ((p.update maxStd setup w).2.1, (p.update maxStd setup w).1) =
        p.afterRound maxStd setup (p.outcomes setup w) ∧
      (p.update maxStd setup w).2.2.events = w.events ++
        List.replicate (p.outcomes setup w).length (.query p.address p.port p.timeout) := by
  cases hcount : p.maxSamples with
  | real x => simp [update, afterRound, outcomes, requestCount, hcount, Script.upcoming, heard,
      settled, afterFault]
  | int count =>
    obtain ⟨hgather, hevents⟩ := p.gather_eq setup count.toNat (g := {}) w rfl
    have houtcomes : p.outcomes setup w =
        heard setup (Script.upcoming count.toNat (w.script p.address)) := by
      simp [outcomes, requestCount, hcount]
    rw [← houtcomes] at hgather hevents
    rcases hrun : p.gather setup count.toNat {} w with
      ⟨⟨samples, lastError, unreachable, fault⟩, w'⟩
    rw [hrun] at hgather hevents
    simp only at hgather hevents
    cases fault with
    | some fault =>
      simp [update, afterRound, hcount, hrun, ← hgather, hevents, settled, afterFault]
    | none =>
      simp only [update, afterRound, hcount, hrun, ← hgather, assess, judged]
      cases hjudge : judge (List.map (·.offset) samples) maxStd with
      | error fault => simp [offsets, hjudge, settled, hevents]
      | ok unusable =>
        cases unusable with
        | none => simp [offsets, hjudge, settled, hevents]
        | some unusable => simp [offsets, hjudge, settled, hevents, World.events_note]

/-- A round changes nothing of a peer but its state of health and whether it is asked. -/
theorem afterRound_frame (p : Peer) (maxStd : Document) (setup : Bool)
    (outcomes : List Outcome) :
    ∃ enabled healthy samples lastError, p.afterRound maxStd setup outcomes =
      { p with enabled, healthy, samples, lastError } := by
  simp only [afterRound]
  split
  · exact ⟨_, _, _, _, rfl⟩
  · split
    · exact ⟨_, _, _, _, rfl⟩
    · simp only [judged]
      split <;> exact ⟨_, _, _, _, rfl⟩

/-- The peer after a round of all peers: one that is disabled is left alone. -/
def polled (p : Peer) (maxStd : Document) (setup : Bool) (outcomes : List Outcome) : Peer :=
  if p.enabled then p.afterRound maxStd setup outcomes else p

/-- A round of all peers changes nothing of a peer but its state of health and whether it is
asked. -/
theorem polled_frame (p : Peer) (maxStd : Document) (setup : Bool) (outcomes : List Outcome) :
    ∃ enabled healthy samples lastError, p.polled maxStd setup outcomes =
      { p with enabled, healthy, samples, lastError } := by
  unfold polled
  split
  · exact p.afterRound_frame maxStd setup outcomes
  · exact ⟨_, _, _, _, rfl⟩

section

variable {p : Peer} {maxStd : Document} {setup : Bool} {outcomes : List Outcome}

@[simp] theorem address_polled : (p.polled maxStd setup outcomes).address = p.address := by
  obtain ⟨_, _, _, _, h⟩ := p.polled_frame maxStd setup outcomes
  rw [h]

@[simp] theorem trust_polled : (p.polled maxStd setup outcomes).trust = p.trust := by
  obtain ⟨_, _, _, _, h⟩ := p.polled_frame maxStd setup outcomes
  rw [h]

/-- A peer that is disabled is left alone. -/
theorem polled_of_disabled (h : p.enabled = false) : p.polled maxStd setup outcomes = p := by
  simp [polled, h]

end

/-! ## Health after a round -/

section

variable (p : Peer) (g : Gathering) (maxStd : Document) (setup : Bool) (w : World)

/-- A judged peer is disabled when it turned out to be out of reach. -/
theorem enabled_judged : (p.judged g maxStd).enabled = (p.enabled && !g.unreachable) := by
  simp only [judged]
  split <;> rfl

/-- A judged peer is healthy when nothing is said against its samples. -/
theorem healthy_judged_iff :
    (p.judged g maxStd).healthy = true ↔ judge (g.samples.map (·.offset)) maxStd = .ok none := by
  simp only [judged, offsets]
  split <;> simp_all [afterFault]

/-- A healthy peer has the samples that were gathered. -/
theorem samples_judged (h : (p.judged g maxStd).healthy = true) :
    (p.judged g maxStd).samples = g.samples := by
  simp only [judged] at h ⊢
  split at h <;> simp_all [afterFault]

/-- A peer's round ends in a fault, or its samples are judged. -/
theorem afterRound_outcomes :
    ((∃ o ∈ p.outcomes setup w, o.fault? ≠ none) ∨ p.outcomes setup w = []) ∧
        (∃ fault, p.afterRound maxStd setup (p.outcomes setup w) = p.afterFault fault) ∨
      (∀ o ∈ p.outcomes setup w, o.fault? = none) ∧
        p.afterRound maxStd setup (p.outcomes setup w) =
          p.judged ((p.outcomes setup w).foldl (p.hear setup) {}) maxStd := by
  cases hcount : p.maxSamples with
  | real x =>
    have hnone : p.outcomes setup w = [] := by
      simp [outcomes, requestCount, hcount, Script.upcoming, heard]
    exact .inl ⟨.inr hnone, _, by simp only [afterRound, hcount]; rfl⟩
  | int count =>
    have hfault := p.fault_foldl_hear_eq_none setup (p.outcomes setup w) {}
    cases hg : ((p.outcomes setup w).foldl (p.hear setup) {}).fault with
    | none =>
      refine .inr ⟨(hfault.1 hg).2, ?_⟩
      simp only [afterRound, hcount, hg]
    | some fault =>
      refine .inl ⟨.inl ?_, fault, by simp only [afterRound, hcount, hg]⟩
      rw [hg] at hfault
      simpa using hfault

/-- A peer is disabled by exactly those outcomes that cut it off. -/
theorem enabled_polled :
    (p.polled maxStd setup (p.outcomes setup w)).enabled =
      (p.enabled && !(p.outcomes setup w).any (·.cutsOff setup)) := by
  cases he : p.enabled with
  | false => simp [polled, he]
  | true =>
    rw [polled, if_pos he]
    obtain ⟨hwhy, fault, heq⟩ | ⟨-, heq⟩ := p.afterRound_outcomes maxStd setup w
    · -- A peer out of reach leaves no fault, so it was not found out of reach here.
      have hcut : (p.outcomes setup w).any (·.cutsOff setup) = false := by
        rw [List.any_eq_false]
        intro o ho hcut
        obtain ⟨e, he', hfault⟩ | hnone := hwhy
        · exact hfault (fault?_of_cutsOff ho hcut he')
        · rw [hnone] at ho
          cases ho
      rw [heq, hcut]
      simpa [afterFault] using he
    · rw [heq, enabled_judged, unreachable_foldl_hear, he]
      simp

/-- An enabled peer is healthy after a round in which no request came to a fault and nothing is
said against the samples that it kept. -/
theorem healthy_polled_iff (he : p.enabled = true) :
    (p.polled maxStd setup (p.outcomes setup w)).healthy = true ↔
      (∀ o ∈ p.outcomes setup w, o.fault? = none) ∧
        judge ((kept (p.outcomes setup w)).map (·.offset)) maxStd = .ok none := by
  rw [polled, if_pos he]
  obtain ⟨hwhy, fault, heq⟩ | ⟨hfaults, heq⟩ := p.afterRound_outcomes maxStd setup w
  · rw [heq]
    constructor
    · intro h
      cases h
    · rintro ⟨hfaults, hjudge⟩
      obtain ⟨o, ho, hfault⟩ | hnone := hwhy
      · exact absurd (hfaults o ho) hfault
      · rw [hnone] at hjudge
        cases hjudge
  · rw [heq, healthy_judged_iff, samples_foldl_hear]
    simpa using fun _ => hfaults

/-- An enabled peer that is healthy after a round has the samples that it kept of this round. -/
theorem samples_of_healthy (he : p.enabled = true)
    (h : (p.polled maxStd setup (p.outcomes setup w)).healthy = true) :
    (p.polled maxStd setup (p.outcomes setup w)).samples = kept (p.outcomes setup w) := by
  rw [polled, if_pos he] at h ⊢
  obtain ⟨-, fault, heq⟩ | ⟨-, heq⟩ := p.afterRound_outcomes maxStd setup w
  · rw [heq] at h
    cases h
  · rw [heq] at h ⊢
    rw [samples_judged p _ maxStd h, samples_foldl_hear]
    simp

end

/-- A sample that a peer has after a round is one that it kept of this round, or that it had before
if it was not asked. -/
theorem mem_samples_polled {p : Peer} {maxStd : Document} {setup : Bool} {w : World} {s : Sample}
    (hs : s ∈ (p.polled maxStd setup (p.outcomes setup w)).samples) :
    if p.enabled then s ∈ kept (p.outcomes setup w) else s ∈ p.samples := by
  cases he : p.enabled with
  | false =>
    rw [polled_of_disabled he] at hs
    exact hs
  | true =>
    rw [polled, if_pos he] at hs
    obtain ⟨-, fault, heq⟩ | ⟨-, heq⟩ := p.afterRound_outcomes maxStd setup w
    · rw [heq] at hs
      cases hs
    · have hgathered := p.samples_foldl_hear setup (p.outcomes setup w) {}
      rw [heq] at hs
      simp only [judged] at hs
      split at hs
      · cases hs
      · simpa [hgathered] using hs
      · simpa [hgathered] using hs

/-- The samples of a peer are not rejected. -/
def Accepted (p : Peer) : Prop := ∀ s ∈ p.samples, s.rejection? = none

/-- Polling keeps it that the samples of a peer are not rejected. -/
theorem accepted_polled (p : Peer) (maxStd : Document) (setup : Bool) (w : World)
    (h : p.Accepted) : (p.polled maxStd setup (p.outcomes setup w)).Accepted := by
  intro s hs
  have hmem := mem_samples_polled hs
  split at hmem
  · exact rejection?_of_mem_kept hmem
  · exact h s hmem

end Peer

/-! ## A round of all peers -/

/-- What the requests of a round come back with, peer by peer. The peers are asked one after the
other, and one that is disabled is not. -/
def roundOutcomes (maxStd : Document) (setup : Bool) : List Peer → World → List (List Outcome)
  | [], _ => []
  | p :: rest, w =>
    if p.enabled then
      p.outcomes setup w :: roundOutcomes maxStd setup rest (p.update maxStd setup w).2.2
    else [] :: roundOutcomes maxStd setup rest w

/-- The requests of a peer that came back with the given outcomes. -/
def Peer.queries (p : Peer) (outcomes : List Outcome) : List Event :=
  List.replicate outcomes.length (.query p.address p.port p.timeout)

/-- There are outcomes for every peer. -/
theorem length_roundOutcomes (maxStd : Document) (setup : Bool) (peers : List Peer) (w : World) :
    (roundOutcomes maxStd setup peers w).length = peers.length := by
  induction peers generalizing w with
  | nil => rfl
  | cons p rest ih =>
    simp only [roundOutcomes]
    split <;> simp [ih]

/-- The faults of a round are dealt with peer by peer. -/
theorem settle_fst (updated : List (Peer × Option Fault)) (w : World) :
    (settle updated w).1 = updated.map Peer.settled := by
  induction updated generalizing w with
  | nil => rfl
  | cons entry rest ih =>
    obtain ⟨p, fault⟩ := entry
    cases fault <;> simp [settle, ih, Peer.settled]

/-- Dealing with faults makes no requests. -/
theorem events_settle (updated : List (Peer × Option Fault)) (w : World) :
    (settle updated w).2.events = w.events := by
  induction updated generalizing w with
  | nil => rfl
  | cons entry rest ih =>
    obtain ⟨p, fault⟩ := entry
    cases fault <;> simp [settle, ih, World.events_note]

/-- The peers are updated one by one, each by its own outcomes. -/
theorem updateEach_eq (maxStd : Document) (setup : Bool) (peers : List Peer) (w : World) :
    (updateEach maxStd setup peers w).1.map Peer.settled =
        List.zipWith (Peer.polled · maxStd setup ·) peers (roundOutcomes maxStd setup peers w) ∧
      (updateEach maxStd setup peers w).2.events = w.events ++
        (List.zipWith Peer.queries peers (roundOutcomes maxStd setup peers w)).flatten := by
  induction peers generalizing w with
  | nil => simp [updateEach, roundOutcomes]
  | cons p rest ih =>
    cases he : p.enabled with
    | true =>
      -- The other peers meet the world that the requests of this one leave.
      obtain ⟨hpeer, hown⟩ := p.update_eq maxStd setup w
      obtain ⟨hrest, hevents⟩ := ih (p.update maxStd setup w).2.2
      simp only [updateEach, roundOutcomes, he, if_true, List.zipWith_cons_cons, List.map_cons,
        List.flatten_cons, hrest, hevents, hown, hpeer, Peer.polled, Peer.queries,
        List.append_assoc, and_self]
    | false =>
      obtain ⟨hrest, hevents⟩ := ih w
      simp [updateEach, roundOutcomes, he, hrest, hevents, Peer.polled, Peer.queries,
        Peer.settled]

/-- A round makes of every peer what its own outcomes say. -/
theorem pollPeers_fst (peers : List Peer) (maxStd : Document) (setup : Bool) (w : World) :
    (pollPeers peers maxStd setup w).1 =
      List.zipWith (Peer.polled · maxStd setup ·) peers (roundOutcomes maxStd setup peers w) := by
  simp only [pollPeers]
  rw [settle_fst, (updateEach_eq maxStd setup peers w).1]

/-- The events of a round are its requests, in the order of the peers. -/
theorem events_pollPeers (peers : List Peer) (maxStd : Document) (setup : Bool) (w : World) :
    (pollPeers peers maxStd setup w).2.events = w.events ++
      (List.zipWith Peer.queries peers (roundOutcomes maxStd setup peers w)).flatten := by
  have hnote : ∀ active healthy w', (noteRound active healthy w').events = w'.events := by
    intro active healthy w'
    simp only [noteRound]
    split <;> rfl
  simp only [pollPeers]
  rw [hnote, events_settle, (updateEach_eq maxStd setup peers w).2]

/-- There are as many peers after a round as before. -/
theorem length_pollPeers (peers : List Peer) (maxStd : Document) (setup : Bool) (w : World) :
    (pollPeers peers maxStd setup w).1.length = peers.length := by
  rw [pollPeers_fst, List.length_zipWith, length_roundOutcomes, Nat.min_self]

/-- The outcomes at the place of a peer are its own, and none if it is disabled. -/
theorem roundOutcomes_at {peers : List Peer} {i : Nat} {p : Peer} (maxStd : Document)
    (setup : Bool) (w : World) (hp : peers[i]? = some p) :
    ∃ w', (roundOutcomes maxStd setup peers w)[i]? =
      some (if p.enabled then p.outcomes setup w' else []) := by
  induction peers generalizing i w with
  | nil => cases hp
  | cons q rest ih =>
    cases i with
    | zero =>
      obtain rfl : q = p := by simpa using hp
      refine ⟨w, ?_⟩
      cases he : q.enabled <;> simp [roundOutcomes, he]
    | succ i =>
      simp only [roundOutcomes]
      split
      · obtain ⟨w', h⟩ := ih (i := i) (q.update maxStd setup w).2.2 (by simpa using hp)
        exact ⟨w', by simpa using h⟩
      · obtain ⟨w', h⟩ := ih (i := i) w (by simpa using hp)
        exact ⟨w', by simpa using h⟩

/-- The peer at a place after a round is what its own outcomes make of the one before. -/
theorem pollPeers_at {peers : List Peer} {i : Nat} {p : Peer} (maxStd : Document)
    (setup : Bool) (w : World) (hp : peers[i]? = some p) :
    ∃ w', (roundOutcomes maxStd setup peers w)[i]? =
        some (if p.enabled then p.outcomes setup w' else []) ∧
      (pollPeers peers maxStd setup w).1[i]? =
        some (p.polled maxStd setup (p.outcomes setup w')) := by
  obtain ⟨w', houtcomes⟩ := roundOutcomes_at maxStd setup w hp
  refine ⟨w', houtcomes, ?_⟩
  rw [pollPeers_fst, List.getElem?_zipWith, hp, houtcomes]
  cases he : p.enabled <;> simp [Peer.polled, he]

/-- There is a peer at a place after a round only if there was one before. -/
theorem exists_of_pollPeers_at {peers : List Peer} {i : Nat} {q : Peer} {maxStd : Document}
    {setup : Bool} {w : World} (hq : (pollPeers peers maxStd setup w).1[i]? = some q) :
    ∃ p, peers[i]? = some p := by
  obtain ⟨hi, -⟩ := List.getElem?_eq_some_iff.1 hq
  rw [length_pollPeers] at hi
  exact ⟨peers[i], List.getElem?_eq_getElem hi⟩

end Concord
