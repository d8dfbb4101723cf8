import Concord.Controller.Basic
import Concord.Peer.Discovery
import Concord.Peer.Round

/-!
# Synchronization

The daemon finds its peers once (`Controller.init`), corrects the clock a first time, without which
nothing is served (`Controller.firstSync`), and then once in each cycle (`Controller.cycle`). In a
cycle the peers are polled, the reference is chosen, the clock is corrected, the wait and the trust
are adapted, and only then what is known and served is replaced. A correction that fails ends the
daemon before any of that changes.

The main statement is `cycles_cycle`: every cycle is counted, however it ends.
-/

namespace Concord.Controller

/-- The peers of the names in the configuration. -/
def findPeers (c : Controller) (w : World) (directory : Directory := w.directory) :
    Except Fault (List Peer) × World :=
  match c.config.peers.items with
  | .error fault => (.error fault, w)
  | .ok names =>
    let (found, w) := discover names ⟨c.config.queryTimeout, c.requests⟩ w directory
    (found.map Discovery.peers, w)

/-- Find the peers of the configuration. There has to be one. -/
def init (c : Controller) (w : World) (directory : Directory := w.directory) : Step Unit :=
  let c := { c with phase := .initializing }
  match c.findPeers w directory with
  | (.error fault, w) => (.error (.fault fault), c, w)
  | (.ok [], w) => (.error (.failure (.noPeers c.config.peers)), { c with peers := [] }, w)
  | (.ok peers, w) =>
    (.ok (), { c with peers, sleep := c.pace.shortestWait },
      w.note .info .controller ("init with " ++ toString peers.length ++ " peers"))

/-- Poll the peers and choose the reference. -/
def poll (c : Controller) (setup : Bool) (w : World) : Option Reference × Controller × World :=
  let (peers, w) := pollPeers c.peers c.config.maxStd setup w
  let candidates := Quorum.eligible peers
  (Quorum.median candidates c.quorum, { c with peers },
    Quorum.noteMedian candidates c.quorum w)

/-- The number of eligible samples. -/
def eligibleCount (c : Controller) : Int := (Quorum.eligible c.peers).length

/-- The deviation of a peer's samples. A single sample has none. -/
def dispersionOf (p : Peer) : Except Fault Binary64 :=
  match p.offsets with
  | [] | [_] => .ok .zero
  | offsets =>
    match deviation? offsets with
    | some deviation => .ok deviation
    | none => .error .deviation

/-- Keep what is known from a reference and replace the template. -/
def record (c : Controller) (r : Reference) (now : Binary64) : Option Fault × Controller :=
  let c := { c with offset := some r.offset, delay := r.sample.delay }
  match dispersionOf r.peer with
  | .error fault => (some fault, c)
  | .ok dispersion =>
    let c := { c with dispersion, lastSync := some now }
    match Template.fromReference r c.sleep dispersion now with
    | .error fault => (some fault, c)
    | .ok template => (none, { c with template })

/-- The gauges after a correction by a reference, if anybody collects them. -/
def measure (c : Controller) (r : Reference) : Controller :=
  { c with gauges := c.gauges.map fun _ =>
      { pollInterval := c.sleep, delay := c.delay, offset := r.offset
        dispersion := c.dispersion } }

/-- Replace what is known, served and measured by what a reference says. -/
def publish (c : Controller) (r : Reference) (w : World) : Option Fault × Controller :=
  match c.record r w.now with
  | (some fault, c) => (some fault, c)
  | (none, c) => (none, c.measure r)

/-- Correct the clock by the offset of a reference, with the given leap indicator. -/
def correct (c : Controller) (r : Reference) (leap : Int) (w : World) :
    Option Failure × Controller × World :=
  let (failure, clock, w) := c.clock.apply r.offset leap c.config.forceUpdate.isSet w
  (failure, { c with clock }, w)

/-- The first round. It leaves leap seconds to the later ones. -/
def firstSync (c : Controller) (w : World) : Step Reference :=
  let (chosen, c, w) := { c with phase := .firstSync }.poll true w
  match chosen with
  | none => (.error (.failure (.firstSync c.eligibleCount c.config.goodFilter)), c, w)
  | some r =>
    match c.correct r 0 w with
    | (some failure, c, w) =>
      (.error (.failure failure), c, w.note .error .controller
        ("sync err: " ++ failure.line ++ " offset: " ++ r.offset.signedFixed 6 ++ "s"))
    | (none, c, w) =>
      match c.publish r w with
      | (some fault, c) => (.error (.fault fault), c, w)
      | (none, c) =>
        (.ok r, c, w.note .info .controller
          ("first sync from " ++ r.peer.id ++ ": offset " ++ r.offset.signedFixed 6 ++ "s"))

/-- Adapt the wait and the trust to the reference of a round. -/
def adapt (c : Controller) (r : Reference) (w : World) : Option Fault × Controller × World :=
  match c.pace.next c.peers (some r) with
  | .error fault => (some fault, c, w)
  | .ok (sleep, peers) => (none, { c with sleep, peers }, c.pace.noteNext (some r) w)

/-- Adapt the wait and the trust to a reference by which the clock was corrected, and publish what
it says. -/
def settle (c : Controller) (r : Reference) (w : World) : Step (Option Reference) :=
  match c.adapt r w with
  | (some fault, c, w) => (.error (.fault fault), c, w)
  | (none, c, w) =>
    match c.publish r w with
    | (some fault, c) => (.error (.fault fault), c, w)
    | (none, c) =>
      (.ok (some r), c, w.note .info .controller
        ("synced to " ++ r.peer.id ++ ": offset " ++ r.offset.signedFixed 6 ++
          "s, next poll in " ++ c.sleep.fixed 0 ++ "s"))

/-- A later round. Without a reference it changes nothing but the wait. -/
def cycle (c : Controller) (w : World) : Step (Option Reference) :=
  let (chosen, c, w) := c.poll false w
  let c := { c with cycles := c.cycles + 1 }
  match chosen with
  | none =>
    let failure := Failure.noQuorum c.eligibleCount c.config.goodFilter
    (.ok none, { c with sleep := c.pace.retryWait }, w.note .warning .controller failure.message)
  | some r =>
    match c.correct r r.sample.leap w with
    | (some failure, c, w) =>
      (.error (.failure failure), c,
        w.note .error .controller ("sync err: " ++ failure.line))
    | (none, c, w) => c.settle r w

/-- What is published does not touch the count of cycles. -/
theorem cycles_publish (c : Controller) (r : Reference) (w : World) :
    (c.publish r w).2.cycles = c.cycles := by
  have hrecord : (c.record r w.now).2.cycles = c.cycles := by
    simp only [record]
    split
    · rfl
    · split <;> rfl
  simp only [publish]
  split <;> rename_i h <;> rw [h] at hrecord <;> exact hrecord

/-- Adapting to a reference does not touch the count of cycles. -/
theorem cycles_adapt (c : Controller) (r : Reference) (w : World) :
    (c.adapt r w).2.1.cycles = c.cycles := by
  simp only [adapt]
  split <;> rfl

/-- Settling a cycle does not touch the count of cycles. -/
theorem cycles_settle (c : Controller) (r : Reference) (w : World) :
    (c.settle r w).2.1.cycles = c.cycles := by
  rcases hadapt : c.adapt r w with ⟨fault, c₁, w₁⟩
  have h₁ : c₁.cycles = c.cycles := by
    have := cycles_adapt c r w
    rwa [hadapt] at this
  rw [← h₁]
  cases fault with
  | some fault => simp only [settle, hadapt]
  | none =>
    rw [← cycles_publish c₁ r w₁]
    rcases hpublish : c₁.publish r w₁ with ⟨fault, c₂⟩
    cases fault <;> simp only [settle, hadapt, hpublish]

/-- Every cycle is counted, however it ends. -/
theorem cycles_cycle (c : Controller) (w : World) : (c.cycle w).2.1.cycles = c.cycles + 1 := by
  rcases hpoll : c.poll false w with ⟨chosen, c₁, w₁⟩
  have h₁ : c₁.cycles = c.cycles := by cases hpoll; rfl
  rw [← h₁]
  cases chosen with
  | none => simp only [cycle, hpoll]
  | some r =>
    rcases hcorrect : { c₁ with cycles := c₁.cycles + 1 }.correct r r.sample.leap w₁ with
      ⟨failure, c₂, w₂⟩
    have h₂ : c₂.cycles = c₁.cycles + 1 := by cases hcorrect; rfl
    rw [← h₂]
    cases failure with
    | some failure => simp only [cycle, hpoll, hcorrect]
    | none =>
      rw [← cycles_settle c₂ r w₂]
      simp only [cycle, hpoll, hcorrect]

end Concord.Controller
