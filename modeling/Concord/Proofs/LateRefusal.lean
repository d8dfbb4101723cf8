import Concord.Program
import Concord.Proofs.RunSafety

/-!
# Where a configuration is refused

A configuration ought to be refused before anything is done. The check of a configuration
(`Program.configure`) is such a place, and there the program ends with the exit code two. But the
check only looks for a colon in an endpoint and does not look at the listed networks at all. An
endpoint can be opened exactly if a whole number stands behind its last colon
(`Endpoint.NamesPort`), and that is found out when the servers are started: after the first round
has sent its requests and set the clock (`Controller.RefusedLate`), and with the exit code one.

The main statement is `refusals_of_options`.
-/

namespace Concord

/-! ## Endpoints -/

/-- A whole number stands behind the last colon of the text. -/
def Endpoint.NamesPort (text : String) : Prop :=
  ∃ host port, text.toList = host ++ ':' :: port ∧ ':' ∉ port ∧
    (Text.integer? (String.ofList port)).isSome = true

/-- A text with a colon is an endpoint exactly if it names its port. -/
theorem Endpoint.isOk_read? {text : String} (defaultPort : Int) (h : ':' ∈ text.toList) :
    (read? text defaultPort).isOk = true ↔ NamesPort text := by
  unfold read?
  cases hcut : Text.cutLast ':' text.toList with
  | none => exact absurd h (Text.cutLast_eq_none.1 hcut)
  | some cut =>
    obtain ⟨host, port⟩ := cut
    obtain ⟨heq, hnot⟩ := Text.cutLast_eq_some.1 hcut
    have hports : NamesPort text ↔ (Text.integer? (String.ofList port)).isSome = true := by
      refine ⟨?_, fun hport => ⟨host, port, heq, hnot, hport⟩⟩
      rintro ⟨host', port', heq', hnot', hport⟩
      have hcut' := Text.cutLast_eq_some.2 ⟨heq', hnot'⟩
      rw [hcut] at hcut'
      cases hcut'
      exact hport
    rw [hports]
    simp only
    cases Text.integer? (String.ofList port) <;> simp [Except.isOk, Except.toBool]

/-- A setting that is a text is an endpoint exactly if the text is one. -/
theorem Controller.isOk_endpointOf {text : String} {defaultPort : Int} :
    (endpointOf (.text text) defaultPort).isOk = (Endpoint.read? text defaultPort).isOk := by
  simp only [endpointOf, Document.textFor]
  cases Endpoint.read? text defaultPort <;> rfl

/-- The text is a network, up to blanks around it. -/
def Network.Written (cidr : String) : Prop :=
  (Network.read? (Text.strip cidr).toList).isSome = true

/-- Texts are a list of networks exactly if each of them is a network. -/
theorem DropTable.isOk_networksOf {cidrs : List String} :
    (networksOf (.list (cidrs.map .text))).isOk = true ↔ ∀ cidr ∈ cidrs, Network.Written cidr := by
  have hone (cidr : String) : (networkOf (.text cidr)).isOk = true ↔ Network.Written cidr := by
    simp only [networkOf, Document.textFor, Network.ofText, Network.Written]
    cases Network.read? (Text.strip cidr).toList <;> exact Iff.rfl
  show ((cidrs.map Document.text).mapM networkOf).isOk = true ↔ _
  induction cidrs with
  | nil => exact ⟨fun _ => by simp, fun _ => rfl⟩
  | cons cidr rest ih =>
    rw [List.forall_mem_cons, ← ih, ← hone, List.map_cons, List.mapM_cons]
    cases networkOf (.text cidr) with
    | error trouble => simp [bind, Except.bind, Except.isOk, Except.toBool]
    | ok network =>
      cases (rest.map Document.text).mapM networkOf <;>
        simp [bind, Except.bind, pure, Except.pure, Except.isOk, Except.toBool]

/-- An endpoint without problems has a colon if it is set. -/
theorem Config.mem_of_endpointProblems {name text : String}
    (h : endpointProblems name (.text text) = .ok []) (hset : text ≠ "") :
    ':' ∈ text.toList := by
  have hset : (Document.text text).isSet = true := decide_eq_true hset
  rw [endpointProblems, if_pos hset] at h
  simpa [hasColon, bind, Except.bind, pure, Except.pure, problemIf] using h

/-- The endpoints of a configuration without problems have none. -/
theorem Config.endpoints_of_problems {c : Config} (h : c.problems = .ok []) :
    endpointProblems "listen" c.listen = .ok [] ∧ endpointProblems "metric" c.metric = .ok [] := by
  unfold problems at h
  obtain ⟨peers, -, h⟩ := bind_eq_ok.1 h
  obtain ⟨maxStd, -, h⟩ := bind_eq_ok.1 h
  obtain ⟨queryTimeout, -, h⟩ := bind_eq_ok.1 h
  obtain ⟨rateInterval, -, h⟩ := bind_eq_ok.1 h
  obtain ⟨listen, hlisten, h⟩ := bind_eq_ok.1 h
  obtain ⟨metric, hmetric, h⟩ := bind_eq_ok.1 h
  have hnone := Except.ok.inj h
  simp only [List.append_eq_nil_iff] at hnone
  rw [hlisten, hmetric, hnone.1.2, hnone.2]
  exact ⟨rfl, rfl⟩

/-! ## Steps that refuse nothing -/

/-- The step does not end with a refusal of the configuration. -/
def Unrefused {α : Type} (result : Except Trouble α) : Prop :=
  ∀ fault, result ≠ .error (.failure (.config fault))

namespace Controller

/-- Finding the peers refuses nothing. -/
theorem init_unrefused (c : Controller) (w : World) : Unrefused (c.init w).1 := by
  intro fault h
  simp only [init] at h
  split at h <;> cases h

/-- The first round refuses nothing. -/
theorem firstSync_unrefused (c : Controller) (w : World) : Unrefused (c.firstSync w).1 := by
  intro fault h
  obtain ⟨w₁, hpoll⟩ := { c with phase := .firstSync }.poll_eq true w
  simp only [firstSync, hpoll] at h
  split at h
  · cases h
  · rename_i r _
    obtain ⟨reason, pendingLeap, w₂, hcorrect⟩ | ⟨w₂, hcorrect⟩ :=
      Controller.correct_end { c with
        phase := .firstSync
        peers := { c with phase := .firstSync }.polledPeers true w } r 0 w₁
    · rw [hcorrect] at h
      cases h
    · rw [hcorrect] at h
      simp only at h
      split at h <;> cases h

/-- A later round refuses nothing. -/
theorem cycle_unrefused (c : Controller) (w : World) : Unrefused (c.cycle w).1 := by
  intro fault h
  have hend := c.cycle_end w
  rw [h] at hend
  cases hend

/-- Waits and rounds refuse nothing. -/
theorem steadyState_unrefused (pauses : List Pause) (c : Controller) (w : World) :
    Unrefused (steadyState pauses c w).1 := by
  induction pauses generalizing c w with
  | nil =>
    intro fault h
    rw [steadyState] at h
    split at h <;> cases h
  | cons pause rest ih =>
    intro fault h
    rw [steadyState] at h
    split at h
    · cases h
    · simp only at h
      split at h
      · cases h
      · split at h
        · cases h
        · -- The wait is over, so a round follows and then the other waits.
          rename_i d w' _ _
          have hcycle := d.cycle_unrefused w' fault
          split at h
          · rename_i htrouble
            rw [htrouble] at hcycle
            cases h
            exact hcycle rfl
          · exact ih _ _ fault h

/-! ## Late refusals -/

/-- The controller's run comes to refuse its configuration: the peers are found and the clock is
corrected a first time, and only then it turns out that the configuration describes no responder,
or, when the responder is started, no status server. -/
structure RefusedLate (c : Controller) (w : World) (fault : ConfigFault) : Prop where
  found : (c.init w).1 = .ok ()
  synced : ∃ r, ((c.init w).2.1.firstSync (c.init w).2.2).1 = .ok r
  refused : c.config.listen.isSet = true ∧
      responderOf c.config = .error (.failure (.config fault)) ∨
    (c.config.listen.isSet = true → (responderOf c.config).isOk = true ∧
        ((c.init w).2.1.firstSync (c.init w).2.2).2.2.listenFault = none) ∧
      c.config.metric.isSet = true ∧
      endpointOf c.config.metric statusPort = .error (.failure (.config fault))

variable {c : Controller} {w : World}

/-- A socket that cannot be opened is no refusal. -/
theorem bindTrouble_ne_refusal {error : Option OsError} {fault : ConfigFault} :
    c.bindTrouble error ≠ some (.failure (.config fault)) := by
  cases error <;> simp [bindTrouble, bindFailure]

/-- The start of the responder refuses the configuration exactly if that describes none. -/
theorem startResponder_refuses (c : Controller) (w : World) (fault : ConfigFault) :
    (c.startResponder w).1 = some (.failure (.config fault)) ↔
      c.config.listen.isSet = true ∧ responderOf c.config = .error (.failure (.config fault)) := by
  unfold startResponder
  by_cases hset : c.config.listen.isSet = true
  · simp only [hset, if_true, true_and]
    cases hresponder : responderOf c.config with
    | error trouble => simp
    | ok responder =>
      simp [bindTrouble_ne_refusal]
  · simp [hset]

/-- The start of the status server refuses the configuration exactly if that describes none. -/
theorem startStatusServer_refuses (c : Controller) (w : World) (fault : ConfigFault) :
    (c.startStatusServer w).1 = some (.failure (.config fault)) ↔ c.config.metric.isSet = true ∧
      endpointOf c.config.metric statusPort = .error (.failure (.config fault)) := by
  unfold startStatusServer
  by_cases hset : c.config.metric.isSet = true
  · simp only [hset, if_true, true_and]
    cases hendpoint : endpointOf c.config.metric statusPort with
    | error trouble => simp
    | ok endpoint =>
      simp [bindTrouble_ne_refusal]
  · simp [hset]

/-- The responder starts without trouble exactly if there is none, or the configuration describes
one and its socket can be opened. -/
theorem startResponder_none : (c.startResponder w).1 = none ↔ (c.config.listen.isSet = true →
    (responderOf c.config).isOk = true ∧ w.listenFault = none) := by
  unfold startResponder
  by_cases hset : c.config.listen.isSet = true
  · simp only [hset, if_true, true_imp_iff]
    cases hresponder : responderOf c.config with
    | error trouble => simp [Except.isOk, Except.toBool]
    | ok responder =>
      obtain ⟨error, hfault, hstart⟩ | ⟨hfault, w', hstart, -⟩ := responder.start_end w <;>
        simp [hstart, hfault, bindTrouble, Except.isOk, Except.toBool]
  · simp [hset]

/-- The start of the servers refuses the configuration when that of either of them does, the
responder being started first. -/
theorem startServing_refuses (c : Controller) (w : World) (fault : ConfigFault) :
    (c.startServing w).1 = .error (.failure (.config fault)) ↔
      c.config.listen.isSet = true ∧
          responderOf c.config = .error (.failure (.config fault)) ∨
        (c.config.listen.isSet = true →
          (responderOf c.config).isOk = true ∧ w.listenFault = none) ∧
        c.config.metric.isSet = true ∧
        endpointOf c.config.metric statusPort = .error (.failure (.config fault)) := by
  have hfirst := startResponder_refuses c w fault
  have hnone := startResponder_none (c := c) (w := w)
  obtain ⟨responder, hframe⟩ := c.startResponder_frame w
  rw [← hfirst, ← hnone]
  unfold startServing
  rcases hrun : c.startResponder w with ⟨trouble, d, w'⟩
  rw [hrun] at hframe
  have hconfig : d.config = c.config := congrArg (·.config) hframe
  cases trouble with
  | some trouble => simp
  | none =>
    have hsecond := startStatusServer_refuses d w' fault
    rcases hstatus : d.startStatusServer w' with ⟨trouble, e, w''⟩
    rw [hstatus, hconfig] at hsecond
    rw [← hsecond]
    cases trouble <;> simp [hstatus]

/-- A run comes to refuse its configuration in this way only. -/
theorem run_refuses_iff (pauses : List Pause) {fault : ConfigFault} :
    (c.run pauses w).1 = .error (.failure (.config fault)) ↔ c.RefusedLate w fault := by
  show (c.live pauses w).1 = _ ↔ _
  have hinit := c.init_unrefused w fault
  have hinitSettings := (c.init_settings w).1
  unfold live
  rcases hrun : c.init w with ⟨found, d, w₁⟩
  rw [hrun] at hinit hinitSettings
  have hfirst := d.firstSync_unrefused w₁ fault
  have hfirstSettings := (ending_settings ⟨d, w₁⟩ true).1
  cases found with
  | error trouble =>
    refine iff_of_false hinit fun h => ?_
    have hfound := h.found
    rw [hrun] at hfound
    cases hfound
  | ok found =>
    rcases hsync : d.firstSync w₁ with ⟨synced, e, w₂⟩
    rw [hsync] at hfirst
    simp only [Round.ending, if_true, hsync] at hfirstSettings
    have hconfig : e.config = c.config := hfirstSettings.config.trans hinitSettings.config
    cases synced with
    | error trouble =>
      refine iff_of_false ?_ fun h => ?_
      · intro h
        simp only [hsync] at h
        cases h
        exact hfirst rfl
      · obtain ⟨r, hr⟩ := h.synced
        rw [hrun, hsync] at hr
        cases hr
    | ok r =>
      have hserving := startServing_refuses e w₂ fault
      rw [hconfig] at hserving
      have hlate : c.RefusedLate w fault ↔
          (e.startServing w₂).1 = .error (.failure (.config fault)) := by
        rw [hserving]
        constructor
        · intro h
          have hrefused := h.refused
          rwa [hrun, hsync] at hrefused
        · intro h
          refine ⟨by rw [hrun], ⟨r, by rw [hrun, hsync]⟩, ?_⟩
          rw [hrun, hsync]
          exact h
      rw [hlate]
      simp only [hsync]
      rcases hstart : e.startServing w₂ with ⟨started, g, w₃⟩
      cases started with
      | error trouble => exact Iff.rfl
      | ok started => exact iff_of_false (steadyState_unrefused pauses _ w₃ fault) (by simp)

/-! ## What was done before -/

/-- When the start of the servers refuses the configuration, at most the responder's socket was
opened, and it is closed again. -/
theorem events_of_startServing_refused {fault : ConfigFault} (hnone : c.responder = none)
    (h : (c.startServing w).1 = .error (.failure (.config fault))) :
    ∃ rest, ((c.startServing w).2.1.stopServing (c.startServing w).2.2).2.events =
        w.events ++ rest ∧
      (rest = [] ∨ ∃ host port, rest = [.bindUdp host port, .closeUdp]) := by
  have hclosed : c.listens = false := by simp [listens, hnone]
  have hfirst := c.startResponder_start w
  unfold startServing at h ⊢
  rcases hrun : c.startResponder w with ⟨trouble, d, w'⟩
  rw [hrun] at hfirst
  simp only [hrun] at h ⊢
  cases trouble with
  | some trouble =>
    simp only [Except.error.injEq] at h ⊢
    subst h
    obtain ⟨-, hstop⟩ := d.stopServing_end w'
    cases hfirst with
    | skipped =>
      rw [hclosed] at hstop
      exact ⟨[], hstop, .inl rfl⟩
  | none =>
    have hsecond := d.startStatusServer_start w'
    rcases hstatus : d.startStatusServer w' with ⟨trouble, e, w''⟩
    rw [hstatus] at hsecond
    simp only [hstatus] at h ⊢
    cases trouble with
    | none => cases h
    | some trouble =>
      simp only [Except.error.injEq] at h ⊢
      subst h
      obtain ⟨-, hstop⟩ := e.stopServing_end w''
      generalize hsome : some (Trouble.failure (.config fault)) = refusal at hsecond
      cases hsecond with
      | tried =>
        exact absurd hsome.symm bindTrouble_ne_refusal
      | skipped =>
        cases hfirst with
        | skipped =>
          rw [hclosed] at hstop
          exact ⟨[], hstop, .inl rfl⟩
        | @opened responder _ _ hrunning hevents =>
          have hopen : ({ c with responder := some responder } : Controller).listens = true := by
            simp [listens, hrunning]
          rw [hopen, hevents, List.append_assoc] at hstop
          exact ⟨_, hstop, .inr ⟨_, _, rfl⟩⟩

/-- A first round of new peers that has a reference has made a request. -/
theorem exists_request_of_reference {round : Round} (hnew : ∀ p ∈ round.controller.peers, p.IsNew)
    {r : Reference} (h : round.reference true = some r) :
    ∃ address port timeout, .query address port timeout ∈ round.requests true := by
  obtain ⟨hpeer, hhealthy, hsample, -⟩ :=
    Quorum.mem_eligible_iff.1 (Quorum.mem_eligible_of_choose h)
  obtain ⟨p, w', hp, -, -⟩ := polledPeers_at hpeer
  have hasked := (hnew p (List.mem_of_getElem? hp)).enabled
  obtain ⟨own, hown, hmem⟩ :=
    Round.returned_of_asked hp hpeer hasked hhealthy (List.mem_of_getElem? hsample)
  refine ⟨p.address, p.port, p.timeout, List.mem_flatten.2 ⟨p.queries own, ?_, ?_⟩⟩
  · refine List.mem_of_getElem? (i := r.peerIndex) ?_
    rw [List.getElem?_zipWith, hp, hown]
  · exact List.mem_replicate.2 ⟨Nat.ne_of_gt (List.length_pos_of_mem hmem), rfl⟩

/-- Before a late refusal the requests of the first round were made and, unless the clock is never
touched, the clock was set by its reference. -/
theorem events_of_refusedLate {config : Config} {collected : Bool} {fault : ConfigFault}
    (hmade : make? config collected = .ok c) (h : c.RefusedLate w fault) (pauses : List Pause) :
    ∃ r rest, Round.reference ⟨(c.init w).2.1, (c.init w).2.2⟩ true = some r ∧
      (c.run pauses w).2.2.events = w.events ++
        Round.requests ⟨(c.init w).2.1, (c.init w).2.2⟩ true ++
        (if config.dryRun.isSet then [] else [.setTime (w.now.add r.offset)]) ++ rest ∧
      (∃ address port timeout, .query address port timeout ∈
        Round.requests ⟨(c.init w).2.1, (c.init w).2.2⟩ true) ∧
      (rest = [] ∨ ∃ host port, rest = [.bindUdp host port, .closeUdp]) := by
  have hrun := (run_refuses_iff pauses).2 h
  obtain ⟨records, hworld⟩ := c.init_noted w
  obtain ⟨hinitSettings, hinitResponder, -⟩ := c.init_settings w
  obtain ⟨r, hsynced⟩ := h.synced
  have hfound := h.found
  have hnone : c.responder = none := by
    unfold make? at hmade
    obtain ⟨clamped, -, hmade⟩ := bind_eq_ok.1 hmade
    obtain ⟨pace, -, hmade⟩ := bind_eq_ok.1 hmade
    obtain ⟨requests, -, hmade⟩ := bind_eq_ok.1 hmade
    obtain ⟨quorum, -, hmade⟩ := bind_eq_ok.1 hmade
    cases hmade
    rfl
  have hdry : c.clock.dryRun = config.dryRun.isSet := by rw [(takesOver_of_make hmade).clock]
  have hnew : ∀ p ∈ (c.init w).2.1.peers, p.IsNew := by
    rcases hinit : c.init w with ⟨found, d, w₁⟩
    rw [hinit] at hfound
    simp only at hfound
    subst hfound
    obtain ⟨peers, rfl, hnew⟩ := init_ok hinit
    exact hnew
  unfold run live at hrun ⊢
  rcases hinit : c.init w with ⟨found, d, w₁⟩
  rw [hinit] at hworld hinitSettings hinitResponder hsynced hfound hnew
  simp only at hworld hinitSettings hinitResponder hsynced hfound hnew
  subst hfound
  -- The first round ended with its reference, so nothing was refused or failed.
  obtain ⟨attempts, hevents, hclock⟩ := Round.clock_end ⟨d, w₁⟩ true
  have hresult : (Round.ending ⟨d, w₁⟩ true).1 = .ok (some r) :=
    Round.ending_true_eq_ok.2 hsynced
  have hattempts : Round.reference ⟨d, w₁⟩ true = some r ∧
      attempts = if config.dryRun.isSet then [] else [.setTime (w.now.add r.offset)] := by
    have hnow : w₁.now = w.now := by rw [hworld]
    rw [hresult] at hclock
    rw [← hdry, ← hinitSettings.dryRun, ← hnow]
    generalize (Round.ending ⟨d, w₁⟩ true).2.1.clock = clock at hclock
    cases hclock with
    | noReference _ hne => exact absurd rfl (hne r)
    | reported hreference _ hdry hended =>
      obtain hsame | ⟨fault, hsame⟩ := hended <;> cases hsame
      exact ⟨hreference, by rw [if_pos hdry]⟩
    | done hreference _ hdry _ hended =>
      obtain hsame | ⟨fault, hsame⟩ := hended <;> cases hsame
      exact ⟨hreference, by rw [hdry]; rfl⟩
  obtain ⟨hreference, rfl⟩ := hattempts
  obtain ⟨-, hresponder, -⟩ := ending_settings ⟨d, w₁⟩ true
  simp only [Round.ending, if_true] at hevents hresponder
  rcases hsync : d.firstSync w₁ with ⟨synced, e, w₂⟩
  rw [hsync] at hsynced hevents hresponder
  simp only at hsynced hevents hresponder
  subst hsynced
  simp only [hinit, hsync] at hrun ⊢
  rcases hstart : e.startServing w₂ with ⟨started, g, w₃⟩
  have hserving := @events_of_startServing_refused e w₂ fault
    ((hresponder.trans hinitResponder).trans hnone)
  rw [hstart] at hserving
  simp only [hstart] at hrun ⊢
  cases started with
  | ok started => exact absurd hrun (steadyState_unrefused pauses _ w₃ fault)
  | error trouble =>
    obtain ⟨rest, hrest, hsockets⟩ := hserving hrun
    refine ⟨r, rest, hreference, ?_, exists_request_of_reference hnew hreference, hsockets⟩
    rw [← (show w₁.events = w.events by rw [hworld]), ← hevents, ← hrest]

end Controller

/-! ## Whole runs of the program -/

namespace Program

/-- Accepted endpoints and networks can be used exactly if the endpoints name their ports and the
networks are networks. -/
theorem usable_iff_of_problems {c : Config} {listen metric : String} {cidrs : List String}
    (hlisten : c.listen = .text listen) (hmetric : c.metric = .text metric)
    (hcidrs : c.dropCidr = .list (cidrs.map .text)) (h : c.problems = .ok []) :
    (listen ≠ "" → (Controller.endpointOf c.listen standardPort).isOk = true) ∧
        (metric ≠ "" → (Controller.endpointOf c.metric statusPort).isOk = true) ∧
        (DropTable.networksOf c.dropCidr).isOk = true ↔
      (listen ≠ "" → Endpoint.NamesPort listen) ∧ (metric ≠ "" → Endpoint.NamesPort metric) ∧
        ∀ cidr ∈ cidrs, Network.Written cidr := by
  obtain ⟨hlistenColon, hmetricColon⟩ := Config.endpoints_of_problems h
  rw [hlisten] at hlistenColon ⊢
  rw [hmetric] at hmetricColon ⊢
  rw [hcidrs, DropTable.isOk_networksOf, Controller.isOk_endpointOf, Controller.isOk_endpointOf]
  refine and_congr (imp_congr_right fun hset => ?_)
    (and_congr_left' (imp_congr_right fun hset => ?_))
  · exact Endpoint.isOk_read? _ (Config.mem_of_endpointProblems hlistenColon hset)
  · exact Endpoint.isOk_read? _ (Config.mem_of_endpointProblems hmetricColon hset)

/-- The world in which the daemon of a configuration begins to run. -/
def begun (config : Config) (w : World) : World :=
  w.note .info .controller
    ("qntp " ++ programVersion ++ " starting with peers " ++ config.peers.plain)

/-- What the program makes of a refused configuration, and with which world it ends, depends on
where that is found out. -/
structure Refusals (o : Options) (disk : Disk) (pauses : List Pause) (w : World)
    (ended : Ending × World) : Prop where
  /-- When it is refused by its check, the exit code is two, and nothing was done. -/
  checked : ∀ fault w', configure o disk w = (.error (.failure (.config fault)), w') →
    ended = (.exited 2 (some ("configuration error: " ++ fault.message ++ "\n")), w') ∧
      w'.events = w.events
  /-- When no controller can be made of an accepted one, there is no exit code, and nothing was
  done. -/
  unmade : ∀ config w' fault, configure o disk w = (.ok config, w') →
    (config.log.setup disk).isOk = true →
    Controller.make? config false = .error (.failure (.config fault)) →
    ended.1 = .crashed (.failure (.config fault)) ∧ ended.2.events = w.events
  /-- The run of an accepted one refuses it only after the first round. Then the exit code is one,
  and the requests of the first round were made and, unless the clock is never touched, the clock
  was set. -/
  late : ∀ config w' c, configure o disk w = (.ok config, w') →
    (config.log.setup disk).isOk = true → Controller.make? config false = .ok c → ∀ fault,
    ((c.run pauses (begun config w')).1 = .error (.failure (.config fault)) ↔
      c.RefusedLate (begun config w') fault) ∧
    (c.RefusedLate (begun config w') fault → ended.1 = .exited 1 none ∧
      ∃ r requests rest, ended.2.events = w.events ++ requests ++
          (if config.dryRun.isSet then [] else [.setTime (w.now.add r.offset)]) ++ rest ∧
        Round.reference ⟨(c.init (begun config w')).2.1, (c.init (begun config w')).2.2⟩ true =
          some r ∧
        (∃ address port timeout, .query address port timeout ∈ requests) ∧
        (rest = [] ∨ ∃ host port, rest = [.bindUdp host port, .closeUdp]))

/-- Reading the configuration is seen in the journal only. -/
theorem configure_noted (o : Options) (disk : Disk) (w : World) :
    World.Noted w (configure o disk w).2 := by
  unfold configure
  split
  · exact .refl w
  · simp only [Config.load]
    split
    · exact .note ..
    · exact .refl w

/-- Of accepted configurations, the endpoints and the networks can be used exactly if the endpoints
name their ports and the networks are networks. A configuration that is refused by its check ends
the program with the code two before anything is done, and one that is refused later does not. -/
theorem refusals_of_options {arguments : List String} {o : Options} (disk : Disk)
    (pauses : List Pause) (w : World) (hread : Options.read arguments = .ok o) :
    (∀ (c : Config) (listen metric : String) (cidrs : List String), c.listen = .text listen →
      c.metric = .text metric → c.dropCidr = .list (cidrs.map .text) → c.problems = .ok [] →
      ((listen ≠ "" → (Controller.endpointOf c.listen standardPort).isOk = true) ∧
          (metric ≠ "" → (Controller.endpointOf c.metric statusPort).isOk = true) ∧
          (DropTable.networksOf c.dropCidr).isOk = true ↔
        (listen ≠ "" → Endpoint.NamesPort listen) ∧ (metric ≠ "" → Endpoint.NamesPort metric) ∧
          ∀ cidr ∈ cidrs, Network.Written cidr)) ∧
    Refusals o disk pauses w (run arguments disk pauses w) := by
  refine ⟨fun c listen metric cidrs hlisten hmetric hcidrs h =>
    usable_iff_of_problems hlisten hmetric hcidrs h, ?_⟩
  have hnoted := configure_noted o disk w
  refine ⟨?_, ?_, ?_⟩
  · intro fault w' hconfigure
    rw [hconfigure] at hnoted
    refine ⟨?_, hnoted.events⟩
    simp only [run, hread, hconfigure]
    rfl
  · intro config w' fault hconfigure hlog hmake
    obtain ⟨setup, hlog⟩ := exists_of_isOk hlog
    rw [hconfigure] at hnoted
    have hended : run arguments disk pauses w =
        (.crashed (.failure (.config fault)), begun config w') := by
      simp only [run, hread, hconfigure, serve, hlog, hmake]
      rfl
    rw [hended]
    exact ⟨rfl, hnoted.events⟩
  · intro config w' c hconfigure hlog hmake fault
    obtain ⟨setup, hlog⟩ := exists_of_isOk hlog
    rw [hconfigure] at hnoted
    have hbegun : World.Noted w (begun config w') := hnoted.trans (.note ..)
    refine ⟨Controller.run_refuses_iff pauses, fun hlate => ?_⟩
    obtain ⟨r, rest, hreference, hevents, hrequest, hsockets⟩ :=
      Controller.events_of_refusedLate hmake hlate pauses
    have hresult := (Controller.run_refuses_iff pauses).2 hlate
    rcases hrun : c.run pauses (begun config w') with ⟨result, d, w''⟩
    rw [hrun] at hresult hevents
    simp only at hresult hevents
    subst hresult
    have hended : run arguments disk pauses w = (.exited 1 none, w''.note .error .controller
        ("daemon exited: " ++ (Failure.config fault).line)) := by
      have hrun : c.run pauses (w'.note .info .controller ("qntp " ++ programVersion ++
        " starting with peers " ++ config.peers.plain)) = _ := hrun
      simp only [run, hread, hconfigure, serve, hlog, hmake, hrun]
    rw [hended]
    obtain ⟨records, hworld⟩ := hbegun
    refine ⟨rfl, r, _, rest, ?_, hreference, hrequest, hsockets⟩
    rw [World.events_note, hevents, hworld]

/-- The exit code of the program, if there is one. -/
def Ending.code? : Ending → Option Nat
  | .exited code _ => some code
  | _ => none

/-- A command line that names one peer and an endpoint with the name of a service in place of a
port. -/
def serviceArguments : List String := ["-p", "a", "--listen", "127.0.0.1:ntp"]

/-- The options of this command line. -/
def serviceOptions : Options :=
  (Options.read serviceArguments).toOption.get (by decide +kernel)

/-- The configuration that these options ask for. -/
def serviceConfig : Config :=
  (configure serviceOptions {} Controller.oneServer).1.toOption.get (by decide +kernel)

/-- The configuration with the name of a service is accepted, and its endpoint cannot be used. The
program refuses it too late. -/
theorem refusals_of_serviceName :
    serviceConfig.problems.toOption = some [] ∧
      ¬ Endpoint.NamesPort "127.0.0.1:ntp" ∧
      Refusals serviceOptions {} [] Controller.oneServer
        (run serviceArguments {} [] Controller.oneServer) := by
  have hread : Options.read serviceArguments = .ok serviceOptions :=
    eq_ok_of_toOption (Option.some_get _).symm
  have hproblems : serviceConfig.problems.toOption = some [] := by decide +kernel
  obtain ⟨husable, hrefusals⟩ := refusals_of_options {} [] Controller.oneServer hread
  refine ⟨hproblems, ?_, hrefusals⟩
  intro hport
  have husable := (husable serviceConfig "127.0.0.1:ntp" "" [] (by decide +kernel)
    (by decide +kernel) (by decide +kernel) (eq_ok_of_toOption hproblems)).2
    ⟨fun _ => hport, by simp, by simp⟩
  have hnot : (Controller.endpointOf serviceConfig.listen standardPort).isOk = false := by
    decide +kernel
  rw [husable.1 (by decide)] at hnot
  cases hnot

/-- The configuration with the name of a service in place of a port is accepted and refused only
when its endpoint is read: the program ends with the code one, after it sent requests and set the
clock. -/
theorem late_of_serviceName :
    serviceConfig.problems.toOption = some [] ∧
      (∃ fault, Controller.endpointOf serviceConfig.listen standardPort =
        .error (.failure (.config fault))) ∧
      (run serviceArguments {} [] Controller.oneServer).1.code? = some 1 ∧
      (run serviceArguments {} [] Controller.oneServer).2.events =
        List.replicate 3 (.query "192.0.2.1" 123 (.real (.ofInt 2))) ++
          [.setTime (Controller.oneServer.now.add (.ofDecimal false 1 (-3)))] := by
  have hlisten : serviceConfig.listen = .text "127.0.0.1:ntp" := by decide +kernel
  refine ⟨by decide +kernel, ?_, by decide +kernel, by decide +kernel⟩
  rw [hlisten]
  exact ⟨.listen "127.0.0.1:ntp", rfl⟩

end Program

end Concord
