import Concord.Clock
import Concord.Config.Check
import Concord.Gauges
import Concord.Options
import Concord.Responder

/-!
# The controller

The controller is the state of the daemon: its configuration, its peers, its clock, what it knows
from the last correction, and the servers it runs. Only the numbers that have bounds are looked at
when it is made (`Controller.make?`); a setting of a kind that cannot be used is found where it is
used. A step of the daemon takes a controller and the world around it to new ones, and either has a
result or comes to a trouble (`Step`).
-/

namespace Concord

/-- The phases of the daemon's life. -/
inductive Phase where
  | initializing
  | firstSync
  | steadyState
  | stopped
deriving DecidableEq

/-- The name of a phase. -/
def Phase.name : Phase → String
  | initializing => "initializing"
  | firstSync => "first_sync"
  | steadyState => "steady_state"
  | stopped => "stopped"

/-- The server that reports on the daemon. -/
structure StatusServer where
  endpoint : Endpoint
  /-- Whether it was set up, which it is before its socket is opened. -/
  running : Bool := false
deriving DecidableEq

/-- The state of the daemon. -/
structure Controller where
  /-- The configuration, with its numbers within their bounds. -/
  config : Config
  pace : Pace
  /-- The number of requests to a peer in a round. -/
  requests : Number
  /-- The least number of eligible samples. -/
  quorum : Number
  clock : Clock
  /-- The gauges, if anybody collects them. -/
  gauges : Option Gauges := none
  peers : List Peer := []
  /-- The wait until the next round. -/
  sleep : Binary64
  /-- The delay of the last reference. -/
  delay : Binary64 := .zero
  /-- The deviation of the samples of the last reference's peer. -/
  dispersion : Binary64 := .zero
  /-- The offset of the last reference. -/
  offset : Option Binary64 := none
  template : Template := {}
  phase : Phase := .initializing
  /-- The number of rounds since the first correction. -/
  cycles : Nat := 0
  /-- When the clock was last corrected. -/
  lastSync : Option Binary64 := none
  responder : Option Responder := none
  statusServer : Option StatusServer := none
  /-- Whether the daemon was asked to stop. -/
  stopping : Bool := false

/-- What a step of the daemon comes to: its result or the trouble that ended it, and what became of
the controller and the world. -/
abbrev Step (α : Type) := Except Trouble α × Controller × World

namespace Controller

/-- The new controller of a configuration, whose numbers are brought into their bounds first. Gauges
are kept when there is a status server to show them, or when somebody else collects them. -/
def make? (config : Config) (collected : Bool) : Except Trouble Controller := do
  let config ← config.clamp.mapError .fault
  let pace ← Pace.make? config.minPoll config.maxPoll standardWaits Pace.standardStable
    Pace.standardRetry
  let requests ← (config.maxSamples.numberFor "<").mapError .fault
  let quorum ← (config.goodFilter.numberFor "<").mapError .fault
  return {
    config, pace, requests, quorum
    clock := { dryRun := config.dryRun.isSet }
    gauges := if collected || config.metric.isSet then some {} else none
    sleep := pace.shortestWait }

/-- A real number in a report, if it is known. -/
def reportReal (x : Option Binary64) : Document := (x.map .real).getD .null

/-- The state of the daemon for reports. -/
def report (c : Controller) : Document :=
  .object [("version", .text programVersion), ("phase", .text c.phase.name),
    ("sleep", .real c.sleep), ("offset", reportReal c.offset), ("delay", .real c.delay),
    ("dispersion", .real c.dispersion), ("cycles", .int c.cycles),
    ("last_sync", reportReal c.lastSync), ("template", c.template.report),
    ("peers", .list (c.peers.map Peer.report)),
    ("server", (c.responder.map Responder.report).getD .null)]

end Controller

end Concord
