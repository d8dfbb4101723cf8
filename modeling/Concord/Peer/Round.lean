import Concord.Peer.Basic
import Concord.World

/-!
# Polling rounds

In a round every enabled peer is asked for its samples, one peer after the other. Failures of the
network stay inside the round: they leave a peer unhealthy. While the daemon starts, a failure that
no later attempt can mend disables the peer. `gather` takes the samples of one peer, `Peer.update`
judges them, and `pollPeers` runs the round.
-/

namespace Concord

/-- The numbers of the errors that say that an address cannot be reached from here: no route to the
network, no route to the host, no such family of addresses. -/
def unreachableNumbers : List Int := [101, 113, 97]

/-- The error says that an address cannot be reached from here. -/
def OsError.unreachable (e : OsError) : Bool :=
  match e.number with
  | some n => unreachableNumbers.contains n
  | none => false

/-- The number of healthy peers below which a round is reported. -/
def minHealthy : Nat := 3

/-- A peer's round under way. -/
structure Gathering where
  /-- The samples accepted so far. -/
  samples : List Sample := []
  /-- The last failure so far. -/
  lastError : Option String := none
  /-- Whether the address turned out to be out of reach. -/
  unreachable : Bool := false
  /-- The fault that ended the round. -/
  fault : Option Fault := none

namespace Peer

/-- The journal's record of a failed request. -/
def noteFailure (p : Peer) (text : String) (w : World) : World :=
  w.note .debug .peers ("peer " ++ p.id ++ " query failed: " ++ text)

/-- Ask up to the given number of times. Rejected samples and failures are left out; an address out
of reach, while the daemon starts, and a fault end the round. -/
def gather (p : Peer) (setup : Bool) : Nat → Gathering → World → Gathering × World
  | 0, g, w => (g, w)
  | n + 1, g, w =>
    match w.ask p.address p.port p.timeout with
    | (.sample s, w) =>
      match s.rejection? with
      | none => gather p setup n { g with samples := g.samples ++ [s] } w
      | some rejection =>
        gather p setup n { g with lastError := some rejection.message }
          (w.note .debug .peers ("peer " ++ p.id ++ " sample rejected: " ++ rejection.message))
    | (.system error, w) =>
      let g := { g with lastError := some error.message }
      if setup && error.unreachable then
        ({ g with unreachable := true },
          w.note .warning .peers
            ("peer " ++ p.id ++ " unreachable, disabled: " ++ error.message))
      else gather p setup n g (p.noteFailure error.message w)
    | (.silence, w) =>
      let text := "No response received from " ++ p.address ++ "."
      gather p setup n { g with lastError := some text } (p.noteFailure text w)
    | (.protocol text, w) =>
      let text := match text.getD "" with
        | "" => Fault.packet.className
        | text => text
      gather p setup n { g with lastError := some text } (p.noteFailure text w)
    | (.fault fault, w) => ({ g with fault := some fault }, w)

/-- The peer with the samples gathered in its round, judged. -/
def assess (p : Peer) (g : Gathering) (maxStd : Document) (w : World) :
    Option Fault × Peer × World :=
  let p := { p with
    samples := g.samples, lastError := g.lastError, enabled := p.enabled && !g.unreachable }
  match judge p.offsets maxStd with
  | .error fault => (some fault, p, w)
  | .ok none => (none, { p with healthy := true }, w)
  | .ok (some unusable) =>
    (none, { p with healthy := false, lastError := some unusable.message },
      w.note .debug .peers (Failure.peerUnhealthy p.address unusable.message).message)

/-- One peer's round: its samples are replaced and judged. A fault leaves the samples and the health
of the peer to the caller. A number of requests that is not whole is a fault before the first of
them. -/
def update (p : Peer) (maxStd : Document) (setup : Bool) (w : World) :
    Option Fault × Peer × World :=
  match p.maxSamples with
  | .real x => (some (.notWhole (.real x)), { p with lastError := none }, w)
  | .int count =>
    match p.gather setup count.toNat {} w with
    | ({ fault := some fault, lastError, .. }, w) => (some fault, { p with lastError }, w)
    | (g, w) => p.assess g maxStd w

end Peer

/-- The peers after each enabled one had its round, with the faults that ended some of them. The
requests of different peers, which the program has under way at the same time, are put one after the
other here, in the order of the peers. -/
def updateEach (maxStd : Document) (setup : Bool) :
    List Peer → World → List (Peer × Option Fault) × World
  | [], w => ([], w)
  | p :: rest, w =>
    if p.enabled then
      let (fault, p, w) := p.update maxStd setup w
      let (updated, w) := updateEach maxStd setup rest w
      ((p, fault) :: updated, w)
    else
      let (updated, w) := updateEach maxStd setup rest w
      ((p, none) :: updated, w)

/-- The peer after a fault ended its round: it is unhealthy and has no samples. -/
def Peer.afterFault (p : Peer) (fault : Fault) : Peer :=
  { p with healthy := false, samples := [], lastError := some fault.message }

/-- The peers after the round's faults were dealt with. -/
def settle : List (Peer × Option Fault) → World → List Peer × World
  | [], w => ([], w)
  | (p, none) :: rest, w =>
    let (peers, w) := settle rest w
    (p :: peers, w)
  | (p, some fault) :: rest, w =>
    let w := w.note .error .poller ("peer " ++ p.id ++ " update raised: " ++ fault.shown)
    let (peers, w) := settle rest w
    (p.afterFault fault :: peers, w)

/-- The number of healthy peers. -/
def healthyCount (peers : List Peer) : Nat := peers.countP (·.healthy)

/-- The journal's record of a round. -/
def noteRound (active healthy : Nat) (w : World) : World :=
  if healthy < minHealthy then
    w.note .warning .poller ("not enough good peers (" ++ toString healthy ++ " < " ++
      toString minHealthy ++ "), but continue")
  else
    w.note .debug .poller ("poll round done: " ++ toString healthy ++ "/" ++ toString active ++
      " healthy")

/-- One round of all peers. -/
def pollPeers (peers : List Peer) (maxStd : Document) (setup : Bool) (w : World) :
    List Peer × World :=
  let (updated, w) := updateEach maxStd setup peers w
  let (polled, w) := settle updated w
  (polled, noteRound (peers.countP (·.enabled)) (healthyCount polled) w)

end Concord
