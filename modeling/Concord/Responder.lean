import Concord.DropTable
import Concord.Endpoint
import Concord.Template

/-!
# The responder

The responder answers the datagrams of clients from the current template. Datagrams of clients that
the drop table refuses, and those that are no requests, stay unanswered. Every datagram is counted
as received (`received_handle`), and once more as answered, dropped or malformed, unless the drop
table cannot decide.
-/

namespace Concord

/-- The responder and its counts. -/
structure Responder where
  endpoint : Endpoint
  dropTable : DropTable := {}
  /-- Whether the socket is open. -/
  running : Bool := false
  received : Nat := 0
  answered : Nat := 0
  dropped : Nat := 0
  malformed : Nat := 0
deriving DecidableEq

/-- A datagram and where it came from. -/
structure Datagram where
  data : List UInt8
  /-- The address of the client. -/
  address : String
  port : Int
deriving DecidableEq

namespace Responder

/-- The request at the beginning of a datagram, if it is one. -/
def request? (data : List UInt8) : Option Packet :=
  match Packet.decode (data.take packetSize) with
  | .ok request => if request.mode = clientMode then some request else none
  | .error _ => none

/-- Answer a datagram of a client that may be answered, if it is a request. -/
def answer (r : Responder) (t : Template) (data : List UInt8) (arrived now : Binary64) :
    Except Fault (Option (List UInt8)) × Responder :=
  match request? data with
  | none => (.ok none, { r with malformed := r.malformed + 1 })
  | some request =>
    ((t.reply request (some (data.take packetSize)) arrived now).map some,
      { r with answered := r.answered + 1 })

/-- Handle a datagram that arrived at the given time: the answer, or the fault that kept it from
being decided on or written, and the responder with its counts. -/
def handle (r : Responder) (t : Template) (data : List UInt8) (address : String)
    (arrived now monotonic : Binary64) : Except Fault (Option (List UInt8)) × Responder :=
  let r := { r with received := r.received + 1 }
  match r.dropTable.step address monotonic with
  | (.error fault, dropTable) => (.error fault, { r with dropTable })
  | (.ok false, dropTable) => (.ok none, { r with dropTable, dropped := r.dropped + 1 })
  | (.ok true, dropTable) => { r with dropTable }.answer t data arrived now

/-- One more datagram is counted as received. -/
theorem received_handle (r : Responder) (t : Template) (data : List UInt8) (address : String)
    (arrived now monotonic : Binary64) :
    (r.handle t data address arrived now monotonic).2.received = r.received + 1 := by
  simp only [handle]
  split
  · rfl
  · rfl
  · simp only [answer]
    split <;> rfl

/-- Take a datagram from the socket and send the answer. -/
def receive (r : Responder) (t : Template) (datagram : Datagram) (w : World) :
    Option Fault × Responder × World :=
  let (answer, r) := r.handle t datagram.data datagram.address w.now w.now w.monotonic
  let w := DropTable.noteRequest datagram.address w
  match answer with
  | .error fault => (some fault, r, w)
  | .ok none => (none, r, w)
  | .ok (some octets) => (none, r, w.record (.send octets datagram.address datagram.port))

/-- Open the socket. -/
def start (r : Responder) (w : World) : Option OsError × Responder × World :=
  let w := w.record (.bindUdp r.endpoint.host r.endpoint.port)
  match w.listenFault with
  | some error => (some error, r, w)
  | none =>
    (none, { r with running := true },
      w.note .info .responder ("NTP responder listening on " ++ r.endpoint.text))

/-- Close the socket, if it is open. -/
def stop (r : Responder) (w : World) : Responder × World :=
  if r.running then
    ({ r with running := false },
      (w.record .closeUdp).note .info .responder "NTP responder stopped")
  else (r, w)

/-- The state of the responder for reports. -/
def report (r : Responder) : Document :=
  .object [("listen", .text r.endpoint.text), ("running", .bool r.running),
    ("received", .int r.received), ("answered", .int r.answered), ("dropped", .int r.dropped),
    ("malformed", .int r.malformed), ("drop_table", r.dropTable.report)]

end Responder

end Concord
