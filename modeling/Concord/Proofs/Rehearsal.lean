import Concord.Proofs.ClockStep
import Concord.Proofs.ServingStep

/-!
# A rehearsal in another world

A dry run goes through everything that the daemon does but for setting the clock. It is compared
with the real run in another world, of which the clocks, the journal and the attempts to set the
clock may be different, and nothing else (`World.Rehearses`); in the world of the real run the clock
can be set.

None of these has a part in what the daemon learns from the world. Peers are found and polled with
the same results in both worlds (`discover_rehearses`, `pollPeers_rehearses`), and a correction
that is only reported in the first one leaves the clocks that it leaves when it is done in the
second (`Clock.apply_rehearses`).
-/

namespace Concord

/-- The event is no attempt to set the clock. -/
def Event.sparesClock : Event → Bool
  | setTime _ => false
  | _ => true

namespace World

/-- What there is in a world besides the clocks, the journal and the attempts to set the clock. -/
def timeless (w : World) : World :=
  { w with
    now := .zero, monotonic := .zero, events := w.events.filter Event.sparesClock, records := [] }

/-- The world of a dry run and that of the real run. -/
structure Rehearses (w w' : World) : Prop where
  timeless : w.timeless = w'.timeless
  settable : w'.clockFault = none

/-- Two steps in the worlds of a dry run and of the real run have the same result. -/
def Abreast {α : Type} (x x' : α × World) : Prop :=
  ∃ a v v', x = (a, v) ∧ x' = (a, v') ∧ v.Rehearses v'

/-- An event is one of the timeless world, unless it is an attempt to set the clock. -/
theorem timeless_record (w : World) (e : Event) : (w.record e).timeless =
    { w.timeless with events := w.timeless.events ++ [e].filter Event.sparesClock } := by
  simp only [timeless, record, List.filter_append]

/-- A change of the clocks is none of the timeless world. -/
theorem timeless_change (w : World) (c : Change) : (w.change c).timeless =
    { w.timeless with
      network := c.scripts.foldl (fun network s => setScript network s.1 s.2) w.network
      clockFault := c.clockFault.getD w.clockFault } := rfl

namespace Rehearses

variable {w w' : World}

/-- A world in which the clock can be set is its own rehearsal. -/
theorem refl (h : w.clockFault = none) : w.Rehearses w := ⟨rfl, h⟩

/-- Steps that have the same result and leave such worlds. -/
theorem abreast {α : Type} (h : w.Rehearses w') (a : α) : Abreast (a, w) (a, w') :=
  ⟨a, w, w', rfl, rfl, h⟩

/-- What can be seen in the timeless world is the same in both. -/
theorem same {α : Type} (h : w.Rehearses w') (look : World → α)
    (hlook : ∀ u : World, look u.timeless = look u) : look w = look w' := by
  rw [← hlook w, h.timeless, hlook w']

/-- The events are the same but for attempts to set the clock. -/
theorem events (h : w.Rehearses w') :
    w.events.filter Event.sparesClock = w'.events.filter Event.sparesClock :=
  congrArg World.events h.timeless

/-- Records in the journals make no difference. -/
theorem noted {v v' : World} (h : w.Rehearses w') (hv : w.Noted v) (hv' : w'.Noted v') :
    v.Rehearses v' := by
  obtain ⟨_, rfl⟩ := hv
  obtain ⟨_, rfl⟩ := hv'
  exact ⟨h.timeless, h.settable⟩

/-- One more record makes no difference. -/
theorem note (h : w.Rehearses w') (level : Level) (part : Part) (message : String) :
    (w.note level part message).Rehearses (w'.note level part message) :=
  h.noted (.note ..) (.note ..)

/-- The same thing is done to both worlds. -/
theorem record (h : w.Rehearses w') (e : Event) : (w.record e).Rehearses (w'.record e) :=
  ⟨by rw [timeless_record, timeless_record, h.timeless], h.settable⟩

/-- The clock of the second world is set. -/
theorem setTime (h : w.Rehearses w') (value : Binary64) :
    w.Rehearses { w'.record (.setTime value) with now := value } := by
  refine ⟨?_, h.settable⟩
  show w.timeless = (w'.record (.setTime value)).timeless
  rw [timeless_record, h.timeless]
  simp only [List.filter, Event.sparesClock, List.append_nil]

/-- The worlds change alike but for their clocks, and the clock can still be set. -/
theorem change (h : w.Rehearses w') {c c' : Change} (hscripts : c.scripts = c'.scripts)
    (hfault : c.clockFault = c'.clockFault) (hsettable : c.clockFault.getD none = none) :
    (w.change c).Rehearses (w'.change c') := by
  have hnetwork : w.network = w'.network := h.same World.network fun _ => rfl
  have hbefore : w.clockFault = w'.clockFault := h.same World.clockFault fun _ => rfl
  refine ⟨?_, ?_⟩
  · rw [timeless_change, timeless_change, h.timeless, hnetwork, hbefore, hscripts, hfault]
  · show c'.clockFault.getD w'.clockFault = none
    rw [h.settable, ← hfault, hsettable]

/-- A request comes back with the same outcome. -/
theorem ask (h : w.Rehearses w') (address : String) (port : Int) (timeout : Document) :
    Abreast (w.ask address port timeout) (w'.ask address port timeout) := by
  have hnetwork : w.network = w'.network := h.same World.network fun _ => rfl
  have hscript : w.script address = w'.script address := h.same (·.script address) fun _ => rfl
  have hrecord := (h.record (.query address port timeout)).timeless
  refine ⟨_, _, _, rfl, congrArg (·, _) (congrArg (·.next.1) hscript.symm), ?_, h.settable⟩
  show { (w.record (.query address port timeout)).timeless with
      network := setScript w.network address (w.script address).next.2 } =
    { (w'.record (.query address port timeout)).timeless with
      network := setScript w'.network address (w'.script address).next.2 }
  rw [hrecord, hnetwork, hscript]

end Rehearses

end World

open World (Abreast)

variable {w w' : World}

/-! ## Peers -/

/-- The worlds have the same directory. -/
theorem directory_rehearses (h : w.Rehearses w') : w.directory = w'.directory :=
  h.same World.directory fun _ => rfl

section

variable (directory : Directory) (defaults : PeerDefaults)

/-- The addresses of a name are the same. -/
theorem resolve_rehearses (h : w.Rehearses w') (name : Document) :
    Abreast (resolve name w directory) (resolve name w' directory) := by
  unfold resolve
  cases directory.lookup name with
  | addresses found => exact h.abreast _
  | failed fault => exact (h.note ..).abreast _

/-- The addresses of names are the same. -/
theorem resolveAll_rehearses (h : w.Rehearses w') (names : List Document)
    (pool : List (String × List String)) :
    Abreast (resolveAll directory names pool w) (resolveAll directory names pool w') := by
  induction names generalizing pool w w' with
  | nil => exact h.abreast _
  | cons name names ih =>
    obtain ⟨addresses, v, v', hv, hv', hr⟩ := resolve_rehearses directory h name
    simp only [resolveAll, hv, hv']
    split
    · exact ih hr _
    · exact h.abreast _

/-- An address is accepted in both worlds or in neither. -/
theorem Discovery.accept_rehearses (h : w.Rehearses w') (d : Discovery) (origin address : String) :
    Abreast (d.accept directory defaults origin address w)
      (d.accept directory defaults origin address w') := by
  simp only [accept]
  split
  · exact h.abreast _
  · cases directory.peer defaults origin address with
    | error reason => exact (h.note ..).abreast _
    | ok p => exact h.abreast _

/-- The same addresses are accepted. -/
theorem Discovery.acceptAll_rehearses (h : w.Rehearses w') (candidates : List (String × String))
    (d : Discovery) :
    Abreast (acceptAll directory defaults candidates d w)
      (acceptAll directory defaults candidates d w') := by
  induction candidates generalizing d w w' with
  | nil => exact h.abreast _
  | cons candidate rest ih =>
    obtain ⟨origin, address⟩ := candidate
    obtain ⟨found, v, v', hv, hv', hr⟩ :=
      accept_rehearses directory defaults h d origin address
    simp only [acceptAll, hv, hv']
    exact ih hr found

/-- The peers found are the same. -/
theorem discover_rehearses (h : w.Rehearses w') (names : List Document) :
    Abreast (discover names defaults w directory) (discover names defaults w' directory) := by
  obtain ⟨resolved, v, v', hv, hv', hr⟩ := resolveAll_rehearses directory h names []
  simp only [discover, hv, hv']
  cases resolved with
  | error fault => exact hr.abreast _
  | ok pool =>
    simp only
    generalize pool.flatMap _ = candidates
    obtain ⟨found, u, u', hu, hu', hr⟩ :=
      Discovery.acceptAll_rehearses directory defaults hr candidates {}
    simp only [hu, hu']
    exact hr.abreast _

end

namespace Peer

/-- A peer's requests come back with the same. -/
theorem gather_rehearses (h : w.Rehearses w') (p : Peer) (setup : Bool) (n : Nat)
    (g : Gathering) : Abreast (p.gather setup n g w) (p.gather setup n g w') := by
  induction n generalizing g w w' with
  | zero => exact h.abreast _
  | succ n ih =>
    obtain ⟨o, v, v', hv, hv', hr⟩ := h.ask p.address p.port p.timeout
    simp only [gather, hv, hv']
    cases o with
    | sample s =>
      simp only
      cases s.rejection? with
      | none => exact ih hr _
      | some rejection => exact ih (hr.note ..) _
    | system error =>
      simp only
      split
      · exact (hr.note ..).abreast _
      · exact ih (hr.note ..) _
    | silence | protocol text => exact ih (hr.note ..) _
    | fault fault => exact hr.abreast _

/-- The samples of a peer are judged alike. -/
theorem assess_rehearses (h : w.Rehearses w') (p : Peer) (g : Gathering) (maxStd : Document) :
    ∃ fault q v v', p.assess g maxStd w = (fault, q, v) ∧ p.assess g maxStd w' = (fault, q, v') ∧
      v.Rehearses v' := by
  simp only [assess]
  split
  · exact ⟨_, _, _, _, rfl, rfl, h⟩
  · exact ⟨_, _, _, _, rfl, rfl, h⟩
  · exact ⟨_, _, _, _, rfl, rfl, h.note ..⟩

/-- A peer's round ends alike. -/
theorem update_rehearses (h : w.Rehearses w') (p : Peer) (maxStd : Document) (setup : Bool) :
    ∃ fault q v v', p.update maxStd setup w = (fault, q, v) ∧
      p.update maxStd setup w' = (fault, q, v') ∧ v.Rehearses v' := by
  simp only [update]
  cases p.maxSamples with
  | real x => exact ⟨_, _, _, _, rfl, rfl, h⟩
  | int count =>
    obtain ⟨g, v, v', hv, hv', hr⟩ := gather_rehearses h p setup count.toNat {}
    simp only [hv, hv']
    obtain ⟨samples, lastError, unreachable, fault⟩ := g
    cases fault with
    | some fault => exact ⟨_, _, _, _, rfl, rfl, hr⟩
    | none => exact assess_rehearses hr p _ maxStd

end Peer

/-- The rounds of all peers end alike. -/
theorem updateEach_rehearses (h : w.Rehearses w') (maxStd : Document) (setup : Bool)
    (peers : List Peer) :
    Abreast (updateEach maxStd setup peers w) (updateEach maxStd setup peers w') := by
  induction peers generalizing w w' with
  | nil => exact h.abreast _
  | cons p rest ih =>
    simp only [updateEach]
    split
    · obtain ⟨fault, q, v, v', hv, hv', hr⟩ := p.update_rehearses h maxStd setup
      obtain ⟨updated, u, u', hu, hu', hr⟩ := ih hr
      simp only [hv, hv', hu, hu']
      exact hr.abreast _
    · obtain ⟨updated, u, u', hu, hu', hr⟩ := ih h
      simp only [hu, hu']
      exact hr.abreast _

/-- The faults of a round are dealt with alike. -/
theorem settle_rehearses (h : w.Rehearses w') (updated : List (Peer × Option Fault)) :
    Abreast (settle updated w) (settle updated w') := by
  induction updated generalizing w w' with
  | nil => exact h.abreast _
  | cons entry rest ih =>
    obtain ⟨p, fault⟩ := entry
    cases fault with
    | none =>
      obtain ⟨peers, v, v', hv, hv', hr⟩ := ih h
      simp only [settle, hv, hv']
      exact hr.abreast _
    | some fault =>
      obtain ⟨peers, v, v', hv, hv', hr⟩ := ih (h.note .error .poller
        ("peer " ++ p.id ++ " update raised: " ++ fault.shown))
      simp only [settle, hv, hv']
      exact hr.abreast _

/-- The peers are the same after a round. -/
theorem pollPeers_rehearses (h : w.Rehearses w') (peers : List Peer) (maxStd : Document)
    (setup : Bool) :
    Abreast (pollPeers peers maxStd setup w) (pollPeers peers maxStd setup w') := by
  obtain ⟨updated, v, v', hv, hv', hr⟩ := updateEach_rehearses h maxStd setup peers
  obtain ⟨polled, u, u', hu, hu', hr⟩ := settle_rehearses hr updated
  simp only [pollPeers, hv, hv', hu, hu', noteRound]
  refine ⟨_, _, _, rfl, rfl, ?_⟩
  split
  · exact hr.note ..
  · exact hr.note ..

/-- The journal's records of a choice make no difference. -/
theorem Quorum.noteMedian_rehearses (h : w.Rehearses w') (references : List Reference)
    (required : Number) :
    (noteMedian references required w).Rehearses (noteMedian references required w') := by
  unfold noteMedian
  split
  · exact h
  · dsimp only
    split
    · exact (h.note ..).note ..
    · exact h.note ..

/-- The journal's record of the wait makes no difference. -/
theorem Pace.noteNext_rehearses (h : w.Rehearses w') (pace : Pace) (chosen : Option Reference) :
    (pace.noteNext chosen w).Rehearses (pace.noteNext chosen w') := by
  unfold noteNext
  split
  · exact h
  · split
    · exact h
    · exact h.note ..

/-! ## Servers -/

/-- Starting the responder ends alike. -/
theorem Responder.start_rehearses (h : w.Rehearses w') (r : Responder) :
    ∃ error s v v', r.start w = (error, s, v) ∧ r.start w' = (error, s, v') ∧
      v.Rehearses v' := by
  have hrecord := h.record (.bindUdp r.endpoint.host r.endpoint.port)
  simp only [start]
  rw [hrecord.same World.listenFault fun _ => rfl]
  cases (w'.record (.bindUdp r.endpoint.host r.endpoint.port)).listenFault with
  | some error => exact ⟨_, _, _, _, rfl, rfl, hrecord⟩
  | none => exact ⟨_, _, _, _, rfl, rfl, hrecord.note ..⟩

/-- Starting the status server ends alike. -/
theorem StatusServer.start_rehearses (h : w.Rehearses w') (s : StatusServer) :
    ∃ error t v v', s.start w = (error, t, v) ∧ s.start w' = (error, t, v') ∧
      v.Rehearses v' := by
  have hrecord := h.record (.bindTcp s.endpoint.host s.endpoint.port)
  simp only [start]
  rw [hrecord.same World.metricFault fun _ => rfl]
  cases (w'.record (.bindTcp s.endpoint.host s.endpoint.port)).metricFault with
  | some error => exact ⟨_, _, _, _, rfl, rfl, hrecord⟩
  | none => exact ⟨_, _, _, _, rfl, rfl, hrecord.note ..⟩

/-! ## The clock -/

/-- A correction that is only reported fails if the real one does, and leaves the same clock. -/
theorem Clock.apply_rehearses (h : w.Rehearses w') {c : Clock} (hdry : c.dryRun = true)
    (offset : Binary64) (leap : Int) (force : Bool) :
    ∃ failure clock v v', c.apply offset leap force w = (failure, clock, v) ∧
      { c with dryRun := false }.apply offset leap force w' =
        (failure, { clock with dryRun := false }, v') ∧
      clock.dryRun = true ∧ v.Rehearses v' := by
  have hrefusal : { c with dryRun := false }.refusal? offset leap force =
      c.refusal? offset leap force := rfl
  unfold apply
  rw [hrefusal]
  cases c.refusal? offset leap force with
  | some reason => exact ⟨_, _, _, _, rfl, rfl, hdry, h⟩
  | none =>
    obtain ⟨records, hset⟩ := c.setLeap_frame leap w
    obtain ⟨records', hset'⟩ := { c with dryRun := false }.setLeap_frame leap w'
    simp only [hset, hset', hdry, if_true, Bool.false_eq_true, if_false]
    rcases step_end offset { w' with records := records' } with
      ⟨fault, hfault, -⟩ | ⟨-, stepped, hstep⟩
    · -- The clock of the real run can be set.
      have hnone : some fault = none := hfault.symm.trans h.settable
      cases hnone
    · rw [hstep]
      refine ⟨_, _, _, _, rfl, rfl, rfl, ?_⟩
      exact (h.setTime (w'.now.add offset)).noted ⟨_, rfl⟩ ⟨_, rfl⟩

end Concord
