import Concord.Sample

/-!
# Peers

A peer is a time source of the configuration at one of its addresses. The trust in it is a level
that the pace of polling raises and resets.
-/

namespace Concord

/-- The port of the protocol. -/
def standardPort : Int := 123

/-- The lowest trust level. -/
def lowestTrust : Int := 1

/-- A time source at one address. -/
structure Peer where
  /-- The name in the configuration that led to the address. -/
  origin : String
  address : String
  port : Int := standardPort
  /-- Whether the peer is asked at all. -/
  enabled : Bool := true
  /-- Whether the samples of the last round are of use. -/
  healthy : Bool := false
  trust : Int := lowestTrust
  /-- The samples of the last round. -/
  samples : List Sample := []
  /-- The time allowed for an answer. -/
  timeout : Document := .real (.ofInt 2)
  /-- The number of requests in a round. -/
  maxSamples : Number := .int 3
  /-- The last failure. -/
  lastError : Option String := none
deriving DecidableEq

namespace Peer

/-- The name of a peer in the journal. -/
def id (p : Peer) : String := p.origin ++ "->" ++ p.address

/-- The offsets of the samples. -/
def offsets (p : Peer) : List Binary64 := p.samples.map (·.offset)

/-- The state of a peer for reports. -/
def report (p : Peer) : Document :=
  .object [("origin", .text p.origin), ("address", .text p.address), ("enabled", .bool p.enabled),
    ("healthy", .bool p.healthy), ("trust_level", .int p.trust),
    ("samples", .int p.samples.length), ("offsets", .list (p.offsets.map .real)),
    ("last_error", (p.lastError.map .text).getD .null)]

end Peer

end Concord
