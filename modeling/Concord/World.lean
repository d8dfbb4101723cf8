import Concord.Journal
import Concord.Sample

/-!
# The world around the daemon

Name service, network, clocks and sockets are a value. It answers each request from a script, moves
its clocks only when it is told to, and keeps what the daemon did to it, in order, together with the
journal. The main statements are `events_record` and `ask_events`: a step adds its events at the end
and changes none of the earlier ones.
-/

namespace Concord

/-- Why a name has no addresses. -/
inductive LookupFault where
  | host (error : OsError)
  | encoding (text : String)
deriving DecidableEq

/-- The text of a failed look-up. -/
def LookupFault.message : LookupFault → String
  | host error => error.message
  | encoding text => text

/-- The look-up of a name that nobody knows. -/
def LookupFault.unknownName : LookupFault := host ⟨some (-2), some "Name or service not known"⟩

/-- What the name service says about a name. -/
inductive Lookup where
  | addresses (found : List String)
  | failed (fault : LookupFault)
deriving DecidableEq

/-- What one request to a time source comes back with. -/
inductive Outcome where
  /-- An answer. -/
  | sample (sample : Sample)
  /-- No answer within the time allowed. -/
  | silence
  /-- An answer that the protocol does not allow. -/
  | protocol (text : Option String)
  /-- An error of the operating system. A timeout that it reports has no number. -/
  | system (error : OsError)
  /-- A fault that no peer expects. -/
  | fault (fault : Fault)
deriving DecidableEq

/-- The answers of one address, in order, and the answer to every later request. -/
structure Script where
  items : List Outcome := []
  default : Outcome := .silence
deriving DecidableEq

/-- The next answer, and the script that remains. -/
def Script.next (s : Script) : Outcome × Script :=
  match s.items with
  | [] => (s.default, s)
  | item :: items => (item, { s with items })

/-- Why the clock cannot be set. -/
inductive ClockFault where
  | system (error : OsError)
  | unsupported (text : String)
deriving DecidableEq

/-- The text of a clock that cannot be set. -/
def ClockFault.message : ClockFault → String
  | system error => error.message
  | unsupported text => text

/-- What the daemon does to the world. -/
inductive Event where
  /-- One request to a time source. -/
  | query (address : String) (port : Int) (timeout : Document)
  /-- An attempt to set the clock. -/
  | setTime (value : Binary64)
  /-- An attempt to open the responder's socket. -/
  | bindUdp (host : String) (port : Int)
  /-- An attempt to open the status server's socket. -/
  | bindTcp (host : String) (port : Int)
  /-- A datagram sent. -/
  | send (data : List UInt8) (address : String) (port : Int)
  /-- The responder's socket closed. -/
  | closeUdp
  /-- The pause between two rounds. -/
  | wait (seconds : Binary64)
deriving DecidableEq

/-- The world. -/
structure World where
  /-- The name service. -/
  names : List (String × Lookup) := []
  /-- The addresses that are refused as addresses. -/
  refused : List String := []
  /-- The network. -/
  network : List (String × Script) := []
  /-- The wall clock. -/
  now : Binary64 := .ofInt 1700000000
  /-- The clock that never steps. -/
  monotonic : Binary64 := .ofInt 1000
  /-- Why the clock cannot be set, if so. -/
  clockFault : Option ClockFault := none
  /-- Why the responder's socket cannot be opened, if so. -/
  listenFault : Option OsError := none
  /-- Why the status server's socket cannot be opened, if so. -/
  metricFault : Option OsError := none
  /-- What was done to the world, in order. -/
  events : List Event := []
  /-- The journal, in order. -/
  records : List Record := []

/-- What changes in the world by itself. -/
structure Change where
  /-- The wall clock, if it changes. -/
  now : Option Binary64 := none
  /-- The clock that never steps, if it changes. -/
  monotonic : Option Binary64 := none
  /-- The scripts of the addresses that get new ones. -/
  scripts : List (String × Script) := []
  /-- Whether the clock can be set from now on, if that changes. -/
  clockFault : Option (Option ClockFault) := none

namespace World

/-- The world after an event. -/
def record (w : World) (e : Event) : World := { w with events := w.events ++ [e] }

/-- The world with one more record in the journal. -/
def note (w : World) (level : Level) (part : Part) (message : String) : World :=
  { w with records := w.records ++ [⟨level, part, message⟩] }

/-- What the name service says about a setting that stands for a name. It knows texts only. -/
def lookup (w : World) (name : Document) : Lookup :=
  ((w.names.find? (.text ·.1 = name)).map (·.2)).getD (.failed .unknownName)

/-- The script of an address. Nobody answers at an address that has none. -/
def script (w : World) (address : String) : Script :=
  ((w.network.find? (·.1 = address)).map (·.2)).getD {}

/-- The network with another script for an address. -/
def setScript (network : List (String × Script)) (address : String) (script : Script) :
    List (String × Script) :=
  match network with
  | [] => [(address, script)]
  | (other, old) :: rest =>
    if other = address then (address, script) :: rest
    else (other, old) :: setScript rest address script

/-- The world after a change. -/
def change (w : World) (c : Change) : World :=
  { w with
    now := c.now.getD w.now
    monotonic := c.monotonic.getD w.monotonic
    network := c.scripts.foldl (fun network s => setScript network s.1 s.2) w.network
    clockFault := c.clockFault.getD w.clockFault }

/-- One request to a time source and what it comes back with. -/
def ask (w : World) (address : String) (port : Int) (timeout : Document) : Outcome × World :=
  let w := w.record (.query address port timeout)
  let (outcome, script) := (w.script address).next
  (outcome, { w with network := setScript w.network address script })

/-- An event is added at the end. -/
theorem events_record (w : World) (e : Event) : (w.record e).events = w.events ++ [e] := rfl

/-- A record in the journal is no event. -/
theorem events_note (w : World) (level : Level) (part : Part) (message : String) :
    (w.note level part message).events = w.events := rfl

/-- A request adds one event. -/
theorem ask_events (w : World) (address : String) (port : Int) (timeout : Document) :
    (w.ask address port timeout).2.events = w.events ++ [.query address port timeout] := rfl

end World

end Concord
