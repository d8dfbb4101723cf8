import Concord.Proofs.Runs

/-!
# What happens outside of the rounds

Finding the peers is seen in the journal only (`init_noted`). Starting the responder or the status
server makes at most one attempt to open its socket; `Controller.ResponderStart` and
`Controller.StatusStart` are the ways in which that ends. While the daemon waits it does no more to
the world than to answer datagrams (`pass_end`). The end of serving closes the responder's socket
exactly if it is open (`stopServing_end`).
-/

namespace Concord

/-! ## The journal -/

/-- The second world comes from the first one by records in the journal. -/
def World.Noted (w w' : World) : Prop := ∃ records, w' = { w with records }

namespace World.Noted

variable {w w' w'' : World}

theorem refl (w : World) : Noted w w := ⟨w.records, rfl⟩

theorem trans (h : Noted w w') (h' : Noted w' w'') : Noted w w'' := by
  obtain ⟨_, rfl⟩ := h
  obtain ⟨records, rfl⟩ := h'
  exact ⟨records, rfl⟩

theorem note (w : World) (level : Level) (part : Part) (message : String) :
    Noted w (w.note level part message) := ⟨_, rfl⟩

/-- Records are no events. -/
theorem events (h : Noted w w') : w'.events = w.events := by
  obtain ⟨_, rfl⟩ := h
  rfl

end World.Noted

open World (Noted)

section

variable (directory : Directory)

/-- Looking up a name is seen in the journal only. -/
theorem resolve_noted (name : Document) (w : World) :
    Noted w (resolve name w directory).2 := by
  unfold resolve
  split
  · exact .refl w
  · exact .note ..

/-- Looking up names is seen in the journal only. -/
theorem resolveAll_noted (names : List Document) (pool : List (String × List String)) (w : World) :
    Noted w (resolveAll directory names pool w).2 := by
  induction names generalizing pool w with
  | nil => exact .refl w
  | cons name names ih =>
    simp only [resolveAll]
    split
    · exact (resolve_noted directory name w).trans (ih ..)
    · exact .refl w

/-- Trying an address is seen in the journal only. -/
theorem Discovery.accept_noted (defaults : PeerDefaults) (d : Discovery) (origin address : String)
    (w : World) : Noted w (d.accept directory defaults origin address w).2 := by
  simp only [accept]
  split
  · exact .refl w
  · split
    · exact .note ..
    · exact .refl w

/-- Trying addresses is seen in the journal only. -/
theorem Discovery.acceptAll_noted (defaults : PeerDefaults) (candidates : List (String × String))
    (d : Discovery) (w : World) : Noted w (acceptAll directory defaults candidates d w).2 := by
  induction candidates generalizing d w with
  | nil => exact .refl w
  | cons candidate rest ih => exact (accept_noted directory defaults d ..).trans (ih ..)

/-- Finding peers is seen in the journal only. -/
theorem discover_noted (names : List Document) (defaults : PeerDefaults) (w : World) :
    Noted w (discover names defaults w directory).2 := by
  have hpool := resolveAll_noted directory names [] w
  unfold discover
  rcases hrun : resolveAll directory names [] w with ⟨result, w'⟩
  rw [hrun] at hpool
  cases result with
  | error fault => exact hpool
  | ok pool => exact hpool.trans (Discovery.acceptAll_noted ..)

end

/-! ## Sockets -/

/-- The attempt to open the responder's socket is made, and only the system can keep it from being
opened. -/
theorem Responder.start_end (r : Responder) (w : World) :
    (∃ error, w.listenFault = some error ∧ r.start w =
        (some error, r, w.record (.bindUdp r.endpoint.host r.endpoint.port))) ∨
      (w.listenFault = none ∧ ∃ w', r.start w = (none, { r with running := true }, w') ∧
        Noted (w.record (.bindUdp r.endpoint.host r.endpoint.port)) w') := by
  simp only [start]
  split <;> rename_i hfault
  · exact .inl ⟨_, hfault, rfl⟩
  · exact .inr ⟨hfault, _, rfl, .note ..⟩

/-- The attempt to open the status server's socket is made, and only the system can keep it from
being opened. The server is set up in any case. -/
theorem StatusServer.start_end (s : StatusServer) (w : World) :
    (∃ error, w.metricFault = some error ∧ s.start w = (some error, { s with running := true },
        w.record (.bindTcp s.endpoint.host s.endpoint.port))) ∨
      (w.metricFault = none ∧ ∃ w', s.start w = (none, { s with running := true }, w') ∧
        Noted (w.record (.bindTcp s.endpoint.host s.endpoint.port)) w') := by
  simp only [start]
  split <;> rename_i hfault
  · exact .inl ⟨_, hfault, rfl⟩
  · exact .inr ⟨hfault, _, rfl, .note ..⟩

/-- Receiving a datagram leaves the socket as it is, and at most sends an answer. -/
theorem Responder.receive_end (r : Responder) (t : Template) (datagram : Datagram) (w : World) :
    (r.receive t datagram w).2.1.running = r.running ∧
      ∃ sent, (r.receive t datagram w).2.2.events = w.events ++ sent ∧
        ∀ e ∈ sent, ∃ data address port, e = .send data address port := by
  have hrunning : (r.handle t datagram.data datagram.address w.now w.now w.monotonic).2.running =
      r.running := by
    simp only [handle]
    split
    · rfl
    · rfl
    · simp only [answer]
      split <;> rfl
  have hnote : (DropTable.noteRequest datagram.address w).events = w.events := by
    unfold DropTable.noteRequest
    split <;> rfl
  rcases hrun : r.handle t datagram.data datagram.address w.now w.now w.monotonic with ⟨answer, r'⟩
  rw [hrun] at hrunning
  simp only [receive, hrun]
  split
  · exact ⟨hrunning, [], by rw [hnote, List.append_nil], by simp⟩
  · exact ⟨hrunning, [], by rw [hnote, List.append_nil], by simp⟩
  · rename_i octets
    refine ⟨hrunning, [.send octets datagram.address datagram.port], ?_, ?_⟩
    · rw [World.events_record, hnote]
    · intro e he
      exact ⟨_, _, _, List.mem_singleton.1 he⟩

namespace Controller

/-- Finding the peers is seen in the journal only. -/
theorem init_noted (c : Controller) (w : World) : Noted w (c.init w).2.2 := by
  have hfind : Noted w ({ c with phase := .initializing }.findPeers w).2 := by
    unfold findPeers
    split
    · exact .refl w
    · exact discover_noted ..
  rcases hrun : { c with phase := .initializing }.findPeers w with ⟨result, w'⟩
  rw [hrun] at hfind
  unfold init
  simp only [hrun]
  cases result with
  | error fault => exact hfind
  | ok peers =>
    cases peers with
    | nil => exact hfind
    | cons p rest => exact hfind.trans (.note ..)

/-! ## Starting -/

/-- Whether the responder's socket is open. -/
def listens (c : Controller) : Bool := (c.responder.map (·.running)).getD false

/-- The ways in which starting the responder ends. -/
inductive ResponderStart (c : Controller) (w : World) :
    Option Trouble × Controller × World → Prop where
  /-- There is no responder, or the configuration does not describe one. -/
  | skipped (trouble : Option Trouble) : ResponderStart c w (trouble, c, w)
  /-- The socket is opened. -/
  | opened {responder : Responder} {w' : World} : w.listenFault = none →
      responder.running = true →
      w'.events = w.events ++ [.bindUdp responder.endpoint.host responder.endpoint.port] →
      ResponderStart c w (none, { c with responder := some responder }, w')
  /-- The socket cannot be opened. -/
  | failed {responder : Responder} {error : OsError} {w' : World} : w.listenFault = some error →
      responder.running = false →
      w'.events = w.events ++ [.bindUdp responder.endpoint.host responder.endpoint.port] →
      ResponderStart c w (some (.failure (bindFailure c.config error)),
        { c with responder := some responder }, w')

/-- The responder that a configuration describes is not running. -/
theorem running_of_responderOf {config : Config} {responder : Responder}
    (h : responderOf config = .ok responder) : responder.running = false := by
  unfold responderOf at h
  obtain ⟨endpoint, -, h⟩ := bind_eq_ok.1 h
  obtain ⟨dropTable, -, h⟩ := bind_eq_ok.1 h
  cases h
  rfl

/-- Starting the responder ends in one of these ways. -/
theorem startResponder_start (c : Controller) (w : World) :
    ResponderStart c w (c.startResponder w) := by
  unfold startResponder
  split
  · split
    · exact .skipped _
    · rename_i responder hresponder
      rcases responder.start_end w with ⟨error, hfault, hstart⟩ | ⟨hfault, w', hstart, hnoted⟩
      · rw [hstart]
        exact .failed hfault (running_of_responderOf hresponder) rfl
      · rw [hstart]
        exact .opened hfault rfl hnoted.events
  · exact .skipped none

/-- The ways in which starting the status server ends. -/
inductive StatusStart (c : Controller) (w : World) :
    Option Trouble × Controller × World → Prop where
  /-- There is no status server, or the configuration does not describe one. -/
  | skipped (trouble : Option Trouble) : StatusStart c w (trouble, c, w)
  /-- The socket is opened, or cannot be. The server is set up in any case. -/
  | tried {server : StatusServer} {w' : World} : server.running = true →
      w'.events = w.events ++ [.bindTcp server.endpoint.host server.endpoint.port] →
      StatusStart c w (c.bindTrouble w.metricFault, { c with statusServer := some server }, w')

/-- Starting the status server ends in one of these ways. -/
theorem startStatusServer_start (c : Controller) (w : World) :
    StatusStart c w (c.startStatusServer w) := by
  unfold startStatusServer
  split
  · split
    · exact .skipped _
    · rename_i endpoint _
      rcases StatusServer.start_end ⟨endpoint, false⟩ w with
        ⟨error, hfault, hstart⟩ | ⟨hfault, w', hstart, hnoted⟩
      · rw [hstart, ← hfault]
        exact .tried rfl rfl
      · rw [hstart, ← hfault]
        exact .tried rfl hnoted.events
  · exact .skipped none

/-! ## Waiting and stopping -/

/-- A pause leaves the responder's socket as it is, and sends answers at most. -/
theorem pass_end (c : Controller) (pause : Pause) (w : World) :
    (∃ responder, (c.pass pause w).2.1 = { c with responder }) ∧
      (c.pass pause w).2.1.listens = c.listens ∧
      ∃ sent, (c.pass pause w).2.2.events = w.events ++ sent ∧
        ∀ e ∈ sent, ∃ data address port, e = .send data address port := by
  have hnothing : ∀ v : World, v.events = w.events → (∃ responder, c = { c with responder }) ∧
      c.listens = c.listens ∧ ∃ sent, v.events = w.events ++ sent ∧
        ∀ e ∈ sent, ∃ data address port, e = .send data address port :=
    fun v hv => ⟨⟨c.responder, rfl⟩, rfl, [], by rw [hv, List.append_nil], by simp⟩
  unfold pass
  split
  · exact hnothing _ rfl
  · rename_i datagram _
    unfold receive
    split
    · rename_i responder hresponder
      split
      · obtain ⟨hrunning, sent, hsent, hall⟩ :=
          responder.receive_end c.template datagram (w.change pause.change)
        refine ⟨⟨_, rfl⟩, ?_, sent, hsent, hall⟩
        simp [listens, hresponder, hrunning]
      · exact hnothing _ rfl
    · exact hnothing _ rfl

/-- The end of serving closes the responder's socket if it is open. -/
theorem stopServing_end (c : Controller) (w : World) :
    (∃ responder statusServer, (c.stopServing w).1 = { c with responder, statusServer }) ∧
      (c.stopServing w).2.events = w.events ++ if c.listens then [.closeUdp] else [] := by
  have hresponder : (c.stopResponder w).2.events =
      w.events ++ if c.listens then [.closeUdp] else [] := by
    unfold stopResponder listens
    split <;> rename_i hserver
    · simp [hserver]
    · simp only [Responder.stop, hserver, Option.map_some, Option.getD_some]
      split
      · rfl
      · simp
  obtain ⟨responder, hfirst⟩ := c.stopResponder_frame w
  obtain ⟨statusServer, hsecond⟩ :=
    (c.stopResponder w).1.stopStatusServer_frame (c.stopResponder w).2
  have hevents : ((c.stopResponder w).1.stopStatusServer (c.stopResponder w).2).2.events =
      (c.stopResponder w).2.events := by
    unfold stopStatusServer StatusServer.stop
    split
    · rfl
    · dsimp only
      split <;> rfl
  refine ⟨⟨responder, statusServer, ?_⟩, hevents.trans hresponder⟩
  show ((c.stopResponder w).1.stopStatusServer (c.stopResponder w).2).1 = _
  rw [hsecond, hfirst]

end Controller

end Concord
