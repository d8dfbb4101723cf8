import Concord.Config.Basic
import Concord.Pace

/-!
# Checking a configuration

`Config.clamp` brings the numbers that have bounds into them, and `Config.problems` lists what is
wrong beyond that. A setting of a kind that has no order, no items or no characters ends the check
with a fault, and a peer's name after an empty one is not checked any more.
-/

namespace Concord

namespace Config

/-- The setting raised to a lower bound. -/
def atLeast (bound : Int) (d : Document) : Except Fault Document := do
  let n ← d.numberFor "<"
  return if n.lt (.int bound) then .int bound else d

/-- The setting cut to an upper bound. -/
def atMost (bound : Int) (d : Document) : Except Fault Document := do
  let n ← d.numberFor ">"
  return if (Number.int bound).lt n then .int bound else d

/-- The bounds of the trust levels brought in order: the lower one counts, and neither is above the
highest. -/
def clampPolls (minPoll maxPoll : Document) : Except Fault (Document × Document) := do
  let minPoll ← atLeast lowestTrust minPoll
  let maxPoll ← atMost highestTrust maxPoll
  let low ← minPoll.numberFor "<"
  let high ← maxPoll.numberFor "<"
  let maxPoll := if high.lt low then minPoll else maxPoll
  return if (Number.int highestTrust).lt low then (.int highestTrust, .int highestTrust)
    else (minPoll, maxPoll)

/-- The configuration with its numbers within their bounds. -/
def clamp (c : Config) : Except Fault Config := do
  let (minPoll, maxPoll) ← clampPolls c.minPoll c.maxPoll
  let rateSize ← atLeast 0 c.rateSize
  let maxSamples ← atLeast 1 c.maxSamples
  let goodFilter ← atLeast 1 c.goodFilter
  return { c with minPoll, maxPoll, rateSize, maxSamples, goodFilter }

/-- Whether one of the peers' names is blank. -/
def anyBlank : List Document → Except Fault Bool
  | [] => .ok false
  | name :: rest =>
    if name.isSet then do
      let text ← name.textFor "strip"
      if Text.strip text = "" then return true else anyBlank rest
    else .ok true

/-- A problem, if there is one. -/
def problemIf (holds : Bool) (message : String) : List String := if holds then [message] else []

/-- The problems with the peers. -/
def peerProblems (d : Document) : Except Fault (List String) := do
  let names ← d.items
  let blank ← anyBlank names
  return problemIf (!d.isSet) "at least one peer is required" ++
    problemIf blank "peer names cannot be empty"

/-- Whether a setting holds a colon: as a character, an item or a name. -/
def hasColon (d : Document) : Except Fault Bool :=
  match d with
  | .text s => .ok (s.toList.contains ':')
  | .list items => .ok (items.any (·.same (.text ":")))
  | .object members => .ok (members.any (·.1 = ":"))
  | d => .error (.kind ("argument of type '" ++ d.kindName ++ "' is not iterable"))

/-- The problems with an endpoint. One that is not set is none. -/
def endpointProblems (name : String) (d : Document) : Except Fault (List String) :=
  if d.isSet then do
    let colon ← hasColon d
    return problemIf (!colon) (name ++ " must be host:port, got " ++ d.shown)
  else .ok []

/-- The problems with the configuration. -/
def problems (c : Config) : Except Fault (List String) := do
  let peers ← peerProblems c.peers
  let maxStd ← c.maxStd.numberFor "<="
  let queryTimeout ← c.queryTimeout.numberFor "<="
  let rateInterval ← c.rateInterval.numberFor "<"
  let listen ← endpointProblems "listen" c.listen
  let metric ← endpointProblems "metric" c.metric
  return peers ++
    problemIf (maxStd.le (.int 0)) ("max_std must be positive: " ++ c.maxStd.plain) ++
    problemIf (queryTimeout.le (.int 0))
      ("query_timeout must be positive: " ++ c.queryTimeout.plain) ++
    problemIf (rateInterval.lt (.int 0))
      ("rate_interval cannot be negative: " ++ c.rateInterval.plain) ++
    listen ++ metric

end Config

end Concord
