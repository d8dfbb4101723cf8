import Concord.World

/-!
# Correcting the clock

The clock is stepped by a measured offset. A correction is refused when the reference announces that
it is not synchronized, and when the offset is larger than the panic threshold and not forced. In a
dry run everything but the step itself is done.
-/

namespace Concord

/-- What the daemon knows about its clock. -/
structure Clock where
  /-- Larger corrections are refused unless they are forced. -/
  panicThreshold : Binary64 := .ofInt 1000
  /-- Whether the clock is never touched. -/
  dryRun : Bool := false
  /-- The leap second that was announced last. -/
  pendingLeap : Int := 0
  /-- The last correction. -/
  lastOffset : Option Binary64 := none
  /-- The number of corrections. -/
  corrections : Nat := 0
deriving DecidableEq

namespace Clock

/-- The name of a leap second, if one is announced. -/
def leapName? (leap : Int) : Option String :=
  if leap = 1 then some "insert" else if leap = 2 then some "delete" else none

/-- The clock with the leap indicator of a reference. -/
def setLeap (c : Clock) (leap : Int) (w : World) : Clock × World :=
  if leap = c.pendingLeap then (c, w)
  else
    let w := match leapName? leap with
      | some name => w.note .warning .clock ("Leap second pending: " ++ name)
      | none =>
        if c.pendingLeap ≠ 0 then w.note .info .clock "Leap second warning cleared" else w
    ({ c with pendingLeap := leap }, w)

/-- Set the clock forward by an offset. The clock of a world takes every target unless the world has
a fault for it. A system's clock refuses not-a-number and infinities besides, and it does so with
errors that do not count as a failed correction. -/
def step (offset : Binary64) (w : World) : Option Failure × World :=
  let target := w.now.add offset
  let w := w.record (.setTime target)
  match w.clockFault with
  | some fault => (some (.clockWrite offset fault.message), w)
  | none =>
    (none, { w with now := target }.note .info .clock
      ("Clock stepped by " ++ offset.signedFixed 6 ++ "s"))

/-- Why a correction is refused, if so. -/
def refusal? (c : Clock) (offset : Binary64) (leap : Int) (force : Bool) : Option String :=
  if leap = leapAlarm then some "reference clock is unsynchronized"
  else if !force && c.panicThreshold.lt offset.abs then
    some ("offset exceeds panic threshold of " ++ c.panicThreshold.text ++ "s")
  else none

/-- Correct the clock by an offset. -/
def apply (c : Clock) (offset : Binary64) (leap : Int) (force : Bool) (w : World) :
    Option Failure × Clock × World :=
  match c.refusal? offset leap force with
  | some reason => (some (.clockWrite offset reason), c, w)
  | none =>
    let (c, w) := c.setLeap leap w
    let (failure, w) :=
      if c.dryRun then
        (none, w.note .info .clock
          ("dry-run: would step clock by " ++ offset.signedFixed 6 ++ "s"))
      else step offset w
    match failure with
    | some failure => (some failure, c, w)
    | none => (none, { c with lastOffset := some offset, corrections := c.corrections + 1 }, w)

end Clock

end Concord
