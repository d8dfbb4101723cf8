import Concord.Quorum

/-!
# The pace of polling

The wait until the next round grows with the trust in the chosen peer, as long as the offsets stay
small. A large offset resets all trust, and a round without a reference is repeated soon. The bounds
of the trust levels and the table of waits fit each other by construction (`Pace`), so every whole
level has a wait (`clamp_index`); `clamp_bounds` says that the bounds hold.
-/

namespace Concord

/-- The highest trust level of the standard table of waits. -/
def highestTrust : Int := 10

/-- The standard table of waits: the powers of two from 16 to 8192 seconds. -/
def standardWaits : List Binary64 := (List.range 10).map fun k => .ofNat (2 ^ (k + 4))

/-- The rules of the pace. -/
structure Pace where
  minPoll : Number
  maxPoll : Number
  /-- The waits of the trust levels from the lowest one on. -/
  waits : List Binary64
  /-- Offsets below are small. -/
  stableOffset : Binary64
  /-- The wait after a round without a reference. -/
  retryWait : Binary64
  lowest_le : (Number.int lowestTrust).le minPoll = true
  min_le_max : minPoll.le maxPoll = true
  max_lt : maxPoll.lt (.int (waits.length + lowestTrust)) = true
deriving DecidableEq

namespace Pace

/-- The pace with the given bounds, if they are in order and fit the table. -/
def make? (minPoll maxPoll : Document) (waits : List Binary64)
    (stableOffset retryWait : Binary64) : Except Trouble Pace :=
  match minPoll.numberFor "<=", maxPoll.numberFor "<=" with
  | .error fault, _ | _, .error fault => .error (.fault fault)
  | .ok low, .ok high =>
    if hlow : (Number.int lowestTrust).le low = true ∧ low.le high = true then
      if hhigh : high.lt (.int (waits.length + lowestTrust)) = true then
        .ok ⟨low, high, waits, stableOffset, retryWait, hlow.1, hlow.2, hhigh⟩
      else .error (.failure (.config (.pollTable maxPoll)))
    else .error (.failure (.config (.pollBounds minPoll maxPoll)))

/-- Offsets below twenty milliseconds are small. -/
def standardStable : Binary64 := .ofDecimal false 2 (-2)

/-- A round without a reference is repeated after ten seconds. -/
def standardRetry : Binary64 := .ofInt 10

/-- The nearest trust level within the bounds. -/
def clamp (pace : Pace) (trust : Int) : Number :=
  pace.minPoll.upper ((Number.int trust).lower pace.maxPoll)

/-- A clamped trust level is within the bounds. -/
theorem clamp_bounds (pace : Pace) (trust : Int) :
    pace.minPoll.le (pace.clamp trust) = true ∧ (pace.clamp trust).le pace.maxPoll = true := by
  have hmin := Number.le_refl_left pace.min_le_max
  have hmax := Number.le_refl_right pace.min_le_max
  have hlower : ((Number.int trust).lower pace.maxPoll).le pace.maxPoll = true := by
    unfold Number.lower
    split
    · exact hmax
    · rename_i h
      exact Number.le_of_lt_eq_false hmax (Number.le_int.2 (Int.le_refl trust)) (by simpa using h)
  unfold clamp Number.upper
  split
  · rename_i h
    exact ⟨Number.le_of_lt h, hlower⟩
  · exact ⟨hmin, pace.min_le_max⟩

/-- A whole trust level has a place in the table once it is clamped. -/
theorem clamp_index (pace : Pace) {trust level : Int} (h : pace.clamp trust = .int level) :
    (level - lowestTrust).toNat < pace.waits.length := by
  obtain ⟨hmin, hmax⟩ := pace.clamp_bounds trust
  rw [h] at hmin hmax
  have hlow := Number.le_int.1 (Number.le_trans pace.lowest_le hmin)
  have hhigh := Number.lt_int.1 (Number.lt_of_le_of_lt hmax pace.max_lt)
  omega

/-- The wait of a trust level, which is first brought within the bounds. A bound that is no whole
number has no place in the table. -/
def waitFor (pace : Pace) (trust : Int) : Except Fault Binary64 :=
  match h : pace.clamp trust with
  | .int level => .ok (pace.waits.get ⟨(level - lowestTrust).toNat, pace.clamp_index h⟩)
  | .real x => .error (.notWhole (.real x))

/-- The table is not empty. -/
theorem waits_pos (pace : Pace) : 0 < pace.waits.length := by
  have hle := Number.le_trans pace.lowest_le pace.min_le_max
  have := Number.lt_int.1 (Number.lt_of_le_of_lt hle pace.max_lt)
  omega

/-- The shortest wait. -/
def shortestWait (pace : Pace) : Binary64 := pace.waits.get ⟨0, pace.waits_pos⟩

/-- Whether an offset is small. -/
def isStable (pace : Pace) (offset : Binary64) : Bool := offset.abs.lt pace.stableOffset

/-- The trust in a peer after a round with a small offset: a healthy peer gains a level, up to the
upper bound. -/
def raise (pace : Pace) (p : Peer) : Peer :=
  if p.healthy && (Number.int p.trust).lt pace.maxPoll then { p with trust := p.trust + 1 } else p

/-- The wait until the next round and the peers with their new trust. -/
def next (pace : Pace) (peers : List Peer) (chosen : Option Reference) :
    Except Fault (Binary64 × List Peer) :=
  match chosen with
  | none => .ok (pace.retryWait, peers)
  | some reference =>
    if pace.isStable reference.offset then
      (pace.waitFor reference.peer.trust).map fun wait => (wait, peers.map pace.raise)
    else .ok (pace.shortestWait, peers.map fun p => { p with trust := lowestTrust })

/-- The journal's record of a round with a large offset. -/
def noteNext (pace : Pace) (chosen : Option Reference) (w : World) : World :=
  match chosen with
  | none => w
  | some reference =>
    if pace.isStable reference.offset then w
    else w.note .info .pace ("offset " ++ reference.offset.signedFixed 6 ++ "s above " ++
      pace.stableOffset.text ++ "s, resetting trust")

end Pace

end Concord
