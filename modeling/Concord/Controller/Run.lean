import Concord.Controller.Cycle
import Concord.Controller.Serving

/-!
# The life of the daemon

The daemon finds its peers, corrects the clock, starts to serve, and then waits and runs a cycle
until it is asked to stop or a correction fails (`Controller.run`). However it ends, serving is
stopped. What happens while it waits is given as a list of pauses; when the list is used up, the
daemon is asked to stop.

The main statement is `phase_run`: every run ends in the last phase.
-/

namespace Concord

/-- What happens during one wait. -/
structure Pause where
  /-- What changes in the world. -/
  change : Change := {}
  /-- A datagram that arrives. -/
  datagram : Option Datagram := none
  /-- Whether the daemon is asked to stop. -/
  stop : Bool := false

namespace Controller

/-- Ask the daemon to stop. -/
def stop (c : Controller) (w : World) : Controller × World :=
  ({ c with stopping := true }, w.note .info .controller "Stopping synchronization loop...")

/-- Whether a wait of the given length elapses undisturbed. One that is no time at all elapses even
when the daemon was asked to stop. -/
def waits (c : Controller) (seconds : Binary64) : Bool := !c.stopping || seconds.le .zero

/-- What happens in a pause: the world changes, and a datagram may arrive. -/
def pass (c : Controller) (pause : Pause) (w : World) : Option Fault × Controller × World :=
  let w := w.change pause.change
  match pause.datagram with
  | none => (none, c, w)
  | some datagram => c.receive datagram w

/-- Wait and run a cycle for each pause, until the daemon is asked to stop. A datagram whose answer
ends in a fault ends the run here. In the program the event loop that delivers the datagram logs the
fault, and the daemon goes on. -/
def steadyState : List Pause → Controller → World → Step Unit
  | pauses, c, w =>
    if c.stopping then (.ok (), c, w)
    else
      let w := w.record (.wait c.sleep)
      match pauses with
      | [] =>
        let (c, w) := c.stop w
        (.ok (), c, w)
      | pause :: rest =>
        match c.pass pause w with
        | (some fault, c, w) => (.error (.fault fault), c, w)
        | (none, c, w) =>
          if pause.stop then
            let (c, w) := c.stop w
            (.ok (), c, w)
          else match c.cycle w with
            | (.error trouble, c, w) => (.error trouble, c, w)
            | (.ok _, c, w) => steadyState rest c w

/-- The daemon's life up to the point at which serving is stopped. -/
def live (c : Controller) (pauses : List Pause) (w : World) : Step Unit :=
  match c.init w with
  | (.error trouble, c, w) => (.error trouble, c, w)
  | (.ok (), c, w) =>
    match c.firstSync w with
    | (.error trouble, c, w) => (.error trouble, c, w)
    | (.ok _, c, w) =>
      match c.startServing w with
      | (.error trouble, c, w) => (.error trouble, c, w)
      | (.ok (), c, w) => steadyState pauses { c with phase := .steadyState } w

/-- The daemon's life. -/
def run (c : Controller) (pauses : List Pause) (w : World) : Step Unit :=
  let (result, c, w) := c.live pauses w
  let (c, w) := c.stopServing w
  (result, { c with phase := .stopped }, w)

/-- Every run ends in the last phase. -/
theorem phase_run (c : Controller) (pauses : List Pause) (w : World) :
    (c.run pauses w).2.1.phase = .stopped := rfl

end Controller

end Concord
