import Concord.Proofs.Runs

/-!
# Peers do not meet in a round

The requests of a peer take outcomes from the script of its own address and leave everything else of
the world alone, the clock included (`World.LeavesRest`). No two peers of a controller share an
address (`nodup_of_reachable`). So every peer of a round comes back with what the world before the
round holds for its address, whichever peers are asked before it: `polledPeers_eq_map`.
-/

namespace Concord

namespace World

/-- The second world comes from the first one by requests to some addresses and by records in the
journal. The clock and the scripts of all other addresses are the same. -/
structure LeavesRest (addresses : List String) (w w' : World) : Prop where
  now : w'.now = w.now
  clockFault : w'.clockFault = w.clockFault
  script : ∀ a, a ∉ addresses → w'.script a = w.script a

namespace LeavesRest

variable {addresses more : List String} {w w' w'' : World}

theorem refl (addresses : List String) (w : World) : LeavesRest addresses w w :=
  ⟨rfl, rfl, fun _ _ => rfl⟩

theorem trans (h : LeavesRest addresses w w') (h' : LeavesRest addresses w' w'') :
    LeavesRest addresses w w'' :=
  ⟨h'.now.trans h.now, h'.clockFault.trans h.clockFault,
    fun a ha => (h'.script a ha).trans (h.script a ha)⟩

/-- Requests to some addresses are requests to these and others. -/
theorem mono (h : LeavesRest addresses w w') (hsub : addresses ⊆ more) : LeavesRest more w w' :=
  ⟨h.now, h.clockFault, fun a ha => h.script a fun hmem => ha (hsub hmem)⟩

/-- A record in the journal is no request. -/
theorem note (addresses : List String) (w : World) (level : Level) (part : Part)
    (message : String) : LeavesRest addresses w (w.note level part message) :=
  ⟨rfl, rfl, fun _ _ => rfl⟩

end LeavesRest

/-- The script set for an address is no other one's. -/
theorem find?_setScript_of_ne (network : List (String × Script)) {address other : String}
    (script : Script) (h : other ≠ address) :
    (setScript network address script).find? (·.1 = other) = network.find? (·.1 = other) := by
  induction network with
  | nil => simp [setScript, Ne.symm h]
  | cons entry rest ih =>
    obtain ⟨first, old⟩ := entry
    by_cases haddress : first = address
    · subst haddress
      simp [setScript, Ne.symm h]
    · by_cases hother : first = other <;> simp [setScript, haddress, hother, ih, h]

/-- A request reaches its address only. -/
theorem leavesRest_ask (w : World) (address : String) (port : Int) (timeout : Document) :
    LeavesRest [address] w (w.ask address port timeout).2 := by
  refine ⟨rfl, rfl, ?_⟩
  intro other hother
  have hne : other ≠ address := fun heq => hother (heq ▸ List.mem_singleton_self _)
  have hfind := find?_setScript_of_ne w.network (w.script address).next.2 hne
  show (Option.map _ ((setScript w.network address (w.script address).next.2).find? _)).getD _ = _
  rw [hfind]
  rfl

end World

open World (LeavesRest)

namespace Peer

/-- The record of an outcome is no request. -/
theorem leavesRest_noteOutcome (p : Peer) (setup : Bool) (o : Outcome) (w : World) :
    LeavesRest [p.address] w (p.noteOutcome setup o w) := by
  cases o with
  | sample s =>
    simp only [noteOutcome]
    split
    · exact .refl _ w
    · exact .note ..
  | system error =>
    simp only [noteOutcome]
    split <;> exact .note ..
  | silence | protocol => exact .note ..
  | fault => exact .refl _ w

/-- The requests of a round reach the peer's address only. -/
theorem leavesRest_gather (p : Peer) (setup : Bool) (n : Nat) {g : Gathering} (w : World)
    (hg : g.unreachable = false) : LeavesRest [p.address] w (p.gather setup n g w).2 := by
  induction n generalizing g w with
  | zero => exact .refl _ w
  | succ n ih =>
    have hask := w.leavesRest_ask p.address p.port p.timeout
    rcases hrun : w.ask p.address p.port p.timeout with ⟨o, w'⟩
    rw [hrun] at hask
    have hnote := hask.trans (p.leavesRest_noteOutcome setup o w')
    rw [gather_succ p setup n w hg hrun]
    cases hlast : o.isLast setup with
    | true => exact hnote
    | false =>
      have hcut : o.cutsOff setup = false := (Bool.or_eq_false_iff.1 hlast).1
      have hnext : (p.hear setup g o).unreachable = false := by
        rw [unreachable_hear, hg, hcut]
        rfl
      exact hnote.trans (ih _ hnext)

/-- A peer's round reaches its address only. -/
theorem leavesRest_update (p : Peer) (maxStd : Document) (setup : Bool) (w : World) :
    LeavesRest [p.address] w (p.update maxStd setup w).2.2 := by
  unfold update
  cases p.maxSamples with
  | real x => exact .refl _ w
  | int count =>
    have hgather := p.leavesRest_gather setup count.toNat (g := {}) w rfl
    rcases hrun : p.gather setup count.toNat {} w with
      ⟨⟨samples, lastError, unreachable, fault⟩, w'⟩
    rw [hrun] at hgather
    cases fault with
    | some fault => simpa only [hrun] using hgather
    | none =>
      simp only [hrun, assess]
      split
      · exact hgather
      · exact hgather
      · exact hgather.trans (.note ..)

/-- What a peer's round comes back with depends on the script of its address only. -/
theorem outcomes_congr {p : Peer} {w w' : World} (setup : Bool)
    (h : w'.script p.address = w.script p.address) : p.outcomes setup w' = p.outcomes setup w := by
  unfold outcomes
  rw [h]

end Peer

/-! ## A round of all peers -/

/-- The requests of a round reach the addresses of its peers only. -/
theorem leavesRest_updateEach (maxStd : Document) (setup : Bool) (peers : List Peer) (w : World) :
    LeavesRest (peers.map (·.address)) w (updateEach maxStd setup peers w).2 := by
  induction peers generalizing w with
  | nil => exact .refl _ w
  | cons p rest ih =>
    have hrest : rest.map (·.address) ⊆ (p :: rest).map (·.address) := List.subset_cons_self _ _
    have hone : [p.address] ⊆ (p :: rest).map (·.address) := by simp
    simp only [updateEach]
    split
    · exact ((p.leavesRest_update maxStd setup w).mono hone).trans ((ih _).mono hrest)
    · exact (ih w).mono hrest

/-- Dealing with faults is no request. -/
theorem leavesRest_settle (addresses : List String) (updated : List (Peer × Option Fault))
    (w : World) : LeavesRest addresses w (settle updated w).2 := by
  induction updated generalizing w with
  | nil => exact .refl _ w
  | cons entry rest ih =>
    obtain ⟨p, fault⟩ := entry
    cases fault with
    | none => exact ih w
    | some fault => exact (LeavesRest.note ..).trans (ih _)

/-- A round reaches the addresses of its peers only. -/
theorem leavesRest_pollPeers (peers : List Peer) (maxStd : Document) (setup : Bool) (w : World) :
    LeavesRest (peers.map (·.address)) w (pollPeers peers maxStd setup w).2 := by
  have hnote (active healthy : Nat) (w' : World) :
      LeavesRest (peers.map (·.address)) w' (noteRound active healthy w') := by
    unfold noteRound
    split <;> exact .note ..
  exact ((leavesRest_updateEach maxStd setup peers w).trans (leavesRest_settle ..)).trans
    (hnote ..)

/-- The peer is the one at the place, and no other peer of the list has its address. -/
structure Peer.AloneAt (p : Peer) (peers : List Peer) (i : Nat) : Prop where
  place : peers[i]? = some p
  alone : ∀ k q, peers[k]? = some q → q.address = p.address → k = i

/-- Every one of several peers at different addresses is alone at its own. -/
theorem Peer.aloneAt_of_nodup {peers : List Peer} {i : Nat} {p : Peer}
    (h : (peers.map (·.address)).Nodup) (hp : peers[i]? = some p) : p.AloneAt peers i := by
  refine ⟨hp, fun k q hq haddress => ?_⟩
  obtain ⟨hk, -⟩ := List.getElem?_eq_some_iff.1 hq
  refine (List.getElem?_inj (by rwa [List.length_map]) h).1 ?_
  rw [List.getElem?_map, List.getElem?_map, hq, hp, Option.map_some, Option.map_some, haddress]

/-- A peer alone at its address comes back with what the world before the round holds for it. -/
theorem roundOutcomes_of_alone {peers : List Peer} {i : Nat} {p : Peer} (maxStd : Document)
    (setup : Bool) (w : World) (h : p.AloneAt peers i) :
    (roundOutcomes maxStd setup peers w)[i]? =
      some (if p.enabled then p.outcomes setup w else []) := by
  induction peers generalizing i w with
  | nil => cases h.place
  | cons first rest ih =>
    cases i with
    | zero =>
      obtain rfl : first = p := by simpa using h.place
      cases he : first.enabled <;> simp [roundOutcomes, he]
    | succ i =>
      have hrest : p.AloneAt rest i :=
        ⟨by simpa using h.place,
          fun k q hq haddress => by simpa using h.alone (k + 1) q (by simpa using hq) haddress⟩
      have hother : p.address ∉ [first.address] := by
        intro hmem
        cases h.alone 0 first rfl (List.mem_singleton.1 hmem).symm
      -- The first peer's requests leave the scripts of the others alone.
      have hsame : p.outcomes setup (first.update maxStd setup w).2.2 = p.outcomes setup w :=
        Peer.outcomes_congr setup ((first.leavesRest_update maxStd setup w).script _ hother)
      cases hfirst : first.enabled <;> simp [roundOutcomes, hfirst, ih _ hrest, hsame]

/-- A peer alone at its address is after a round what the world before it holds for the address. -/
theorem pollPeers_of_alone {peers : List Peer} {i : Nat} {p : Peer} (maxStd : Document)
    (setup : Bool) (w : World) (h : p.AloneAt peers i) :
    (pollPeers peers maxStd setup w).1[i]? =
      some (p.polled maxStd setup (p.outcomes setup w)) := by
  rw [pollPeers_fst, List.getElem?_zipWith, h.place, roundOutcomes_of_alone maxStd setup w h]
  cases he : p.enabled with
  | true => rfl
  | false => simp only [Peer.polled_of_disabled he]

/-- A round makes of every peer what the world before it holds for the peer's address. -/
theorem pollPeers_eq_map {peers : List Peer} (h : (peers.map (·.address)).Nodup)
    (maxStd : Document) (setup : Bool) (w : World) :
    (pollPeers peers maxStd setup w).1 =
      peers.map fun p => p.polled maxStd setup (p.outcomes setup w) := by
  refine List.ext_getElem? fun i => ?_
  rw [List.getElem?_map]
  cases hp : peers[i]? with
  | none =>
    rw [Option.map_none, List.getElem?_eq_none_iff, length_pollPeers]
    exact List.getElem?_eq_none_iff.1 hp
  | some p => exact pollPeers_of_alone maxStd setup w (Peer.aloneAt_of_nodup h hp)

/-! ## Addresses of the peers -/

section

variable (directory : Directory) (defaults : PeerDefaults) {d : Discovery} (w : World)

/-- One more address is another one than those of the peers found so far. -/
theorem Discovery.nodup_accept (origin address : String) (h : (d.peers.map (·.address)).Nodup) :
    ((d.accept directory defaults origin address w).1.peers.map (·.address)).Nodup := by
  unfold accept
  by_cases hfound : d.peers.any (·.address = address) = true
  · rw [if_pos hfound]
    exact h
  · rw [if_neg hfound]
    simp only
    split
    · exact h
    · rename_i p hpeer
      have hnew : p.address ∉ d.peers.map (·.address) := by
        intro hmem
        obtain ⟨q, hq, heq⟩ := List.mem_map.1 hmem
        rw [(directory.peer_eq hpeer).2] at heq
        exact hfound (List.any_eq_true.2 ⟨q, hq, decide_eq_true heq⟩)
      rw [List.map_append, List.map_singleton]
      refine List.nodup_append.2 ⟨h, List.nodup_cons.2 ⟨List.not_mem_nil, List.nodup_nil⟩, ?_⟩
      intro a ha b hb heq
      obtain rfl := List.mem_singleton.1 hb
      exact hnew (heq ▸ ha)

/-- The peers found are at different addresses. -/
theorem Discovery.nodup_acceptAll (candidates : List (String × String))
    (h : (d.peers.map (·.address)).Nodup) :
    ((acceptAll directory defaults candidates d w).1.peers.map (·.address)).Nodup := by
  induction candidates generalizing d w with
  | nil => exact h
  | cons candidate rest ih =>
    exact ih _ (nodup_accept directory defaults w candidate.1 candidate.2 h)

end

namespace Controller

/-- The peers found in a configuration are at different addresses. -/
theorem nodup_of_findPeers {c : Controller} {w w' : World} {peers : List Peer}
    (h : c.findPeers w = (.ok peers, w')) : (peers.map (·.address)).Nodup := by
  unfold findPeers discover at h
  split at h
  · cases h
  · rename_i names _
    rcases hpool : resolveAll w.directory names [] w with ⟨result, w₁⟩
    rw [hpool] at h
    cases result with
    | error fault => cases h
    | ok pool =>
      cases h
      exact Discovery.nodup_acceptAll _ _ _ _ List.nodup_nil

/-- Looking for the peers leaves those that there were, none, or those found. -/
theorem peers_of_init (c : Controller) (w : World) :
    (c.init w).2.1.peers = c.peers ∨ (c.init w).2.1.peers = [] ∨
      ∃ peers w', c.findPeers w = (.ok peers, w') ∧ (c.init w).2.1.peers = peers := by
  have hfind : { c with phase := .initializing }.findPeers w = c.findPeers w := rfl
  unfold init
  simp only [hfind]
  rcases c.findPeers w with ⟨result, w'⟩
  cases result with
  | error fault => exact .inl rfl
  | ok peers =>
    cases peers with
    | nil => exact .inr (.inl rfl)
    | cons p rest => exact .inr (.inr ⟨p :: rest, w', rfl, rfl⟩)

/-- In every run the peers are at different addresses. -/
theorem nodup_of_reachable {c : Controller} (h : Reachable c) :
    (c.peers.map (·.address)).Nodup := by
  have hpolled (c : Controller) (setup : Bool) (w : World) :
      (c.polledPeers setup w).map (·.address) = c.peers.map (·.address) :=
    map_polledPeers (·.address) (fun _ _ _ _ => Peer.address_polled) c setup w
  induction h with
  | made hmake =>
    rw [(of_make hmake).2.2.1]
    exact List.nodup_nil
  | @init c w _ ih =>
    rcases c.peers_of_init w with heq | heq | ⟨peers, w', hfound, heq⟩
    · rw [heq]
      exact ih
    · rw [heq]
      exact List.nodup_nil
    · rw [heq]
      exact nodup_of_findPeers hfound
  | @firstSync c w _ ih =>
    obtain ⟨_, _, _, _, _, _, _, heq⟩ := c.firstSync_frame w
    rw [heq]
    show ((c.polledPeers true w).map (·.address)).Nodup
    rw [hpolled]
    exact ih
  | @cycle c w _ ih =>
    -- Trust is all that a cycle changes of the polled peers.
    obtain ⟨f, _, _, _, _, _, _, _, _, hf, heq⟩ := c.cycle_frame w
    have haddress : ((c.polledPeers false w).map f).map (·.address) =
        (c.polledPeers false w).map (·.address) := by
      rw [List.map_map]
      refine List.map_congr_left fun p _ => ?_
      obtain ⟨trust, htrust⟩ := hf p
      rw [Function.comp_apply, htrust]
    rw [heq]
    show (((c.polledPeers false w).map f).map (·.address)).Nodup
    rw [haddress, hpolled]
    exact ih
  | pass _ hpass ih =>
    obtain ⟨_, _, _, _, rfl⟩ := hpass.frame
    exact ih

/-- Polling leaves the clock of the world alone. -/
theorem leavesRest_poll (c : Controller) (setup : Bool) (w : World) :
    World.LeavesRest (c.peers.map (·.address)) w (c.poll setup w).2.2 := by
  have hnote (candidates : List Reference) (v : World) :
      World.LeavesRest (c.peers.map (·.address)) v
        (Quorum.noteMedian candidates c.quorum v) := by
    unfold Quorum.noteMedian
    split
    · exact .refl _ v
    · dsimp only
      split
      · exact (World.LeavesRest.note ..).trans (.note ..)
      · exact .note ..
  exact (leavesRest_pollPeers c.peers c.config.maxStd setup w).trans (hnote ..)

/-- Polling makes of every peer what the world before it holds for the peer's address. -/
theorem polledPeers_eq_map {c : Controller} (h : Reachable c) (setup : Bool) (w : World) :
    c.polledPeers setup w =
      c.peers.map fun p => p.polled c.config.maxStd setup (p.outcomes setup w) :=
  pollPeers_eq_map (nodup_of_reachable h) _ _ _

end Controller

end Concord
