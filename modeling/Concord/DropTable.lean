import Concord.Address.Network
import Concord.World

/-!
# The drop table

The drop table decides whether a client may be answered. Clients in a listed network never are, and
every other client at most once in an interval. The times of the last answers are kept for as many
clients as the table's size, the client answered longest ago leaving first; a size of zero switches
the interval off. The address counts, not its text: zones are cut off, and an address of the fourth
version is the same client when it comes embedded in one of the sixth.

`DropTable.verdict` is the decision and `DropTable.step` the step. The main statement is
`remember_getLast?`: the client that was just answered is the last to leave.
-/

namespace Concord

/-- The times of the last answers, the oldest answer first. -/
abbrev Answered := List (Address × Binary64)

namespace Answered

/-- The time of the last answer to a client. -/
def last? (answered : Answered) (client : Address) : Option Binary64 :=
  (answered.find? (·.1 = client)).map (·.2)

/-- The times after one more answer, of at most `size` clients. -/
def remember (answered : Answered) (size : Nat) (client : Address) (now : Binary64) : Answered :=
  let all := answered.filter (·.1 ≠ client) ++ [(client, now)]
  all.drop (all.length - size)

/-- At most `size` clients are remembered. -/
theorem length_remember_le (answered : Answered) (size : Nat) (client : Address)
    (now : Binary64) : (remember answered size client now).length ≤ size := by
  simp only [remember, List.length_drop]
  omega

/-- The client just answered stands last. -/
theorem remember_getLast? (answered : Answered) {size : Nat} (hsize : 0 < size)
    (client : Address) (now : Binary64) :
    (remember answered size client now).getLast? = some (client, now) := by
  simp only [remember, List.getLast?_drop, List.length_append, List.length_singleton]
  rw [if_neg (by omega)]
  simp

end Answered

/-- The decision about one request. -/
inductive Verdict where
  /-- The text of the client's address is none. -/
  | unreadable
  /-- The client is in a listed network. -/
  | listed
  /-- The client was answered a short time ago. -/
  | tooSoon
  /-- The client may be answered; its address is given when the answer is to be remembered. -/
  | allowed (client : Option Address)
deriving DecidableEq

/-- Whether the request may be answered. -/
def Verdict.isAllowed : Verdict → Bool
  | allowed _ => true
  | _ => false

/-- Clients that are not answered, or not so often. -/
structure DropTable where
  /-- The networks whose clients are never answered. -/
  networks : List Network := []
  /-- The number of clients to remember. -/
  rateSize : Document := .int 4096
  /-- The least time between two answers to a client. -/
  rateInterval : Document := .real (.ofInt 2)
  answered : Answered := []
  /-- The number of requests dropped for their network. -/
  droppedListed : Nat := 0
  /-- The number of requests dropped for coming too soon. -/
  droppedSoon : Nat := 0
deriving DecidableEq

namespace DropTable

/-- The network that a setting lists. -/
def networkOf (d : Document) : Except Trouble Network :=
  match d.textFor "strip" with
  | .error fault => .error (.fault fault)
  | .ok cidr => (Network.ofText cidr).mapError fun fault => .failure (.config fault)

/-- The networks that a setting lists. The first text that is none is reported. -/
def networksOf (cidrs : Document) : Except Trouble (List Network) :=
  match cidrs.items with
  | .error fault => .error (.fault fault)
  | .ok items => items.mapM networkOf

/-- A size of the table that is not negative. -/
def sizeOf (rateSize : Document) : Except Fault Document := do
  let n ← rateSize.numberFor "<"
  return if n.lt (.int 0) then .int 0 else rateSize

/-- The table of the given networks, with a negative size taken as zero. -/
def make? (cidrs rateSize rateInterval : Document) : Except Trouble DropTable := do
  let networks ← networksOf cidrs
  let rateSize ← (sizeOf rateSize).mapError .fault
  return { networks, rateSize, rateInterval }

/-- The number of clients that are remembered at most, if there is a limit. -/
def capacity? (t : DropTable) : Option Nat := t.rateSize.number?.bind Number.floor?

/-- Whether the interval is switched off by a size of zero. -/
def isOff (t : DropTable) : Bool :=
  match t.rateSize.number? with
  | some size => size.le (.int 0)
  | none => false

/-- The client that a text stands for. -/
def client? (text : String) : Option Address := (Address.readHost? text).map Address.unmapped

/-- Whether the last answer to a client is too recent. The interval is looked at only when there is
such an answer. -/
def isTooSoon (t : DropTable) (client : Address) (now : Binary64) : Except Fault Bool :=
  match t.answered.last? client with
  | some last => (t.rateInterval.limitFor "<").map fun interval =>
      (Number.real (now.sub last)).lt interval
  | none => .ok false

/-- The decision about a request from an address at a time. -/
def verdict (t : DropTable) (text : String) (now : Binary64) : Except Fault Verdict :=
  match client? text with
  | none => .ok .unreadable
  | some client =>
    if t.networks.any (·.contains client) then .ok .listed
    else if t.isOff then .ok (.allowed none)
    else (t.isTooSoon client now).map fun soon =>
      if soon then .tooSoon else .allowed (some client)

/-- The times after one more answer. Without a limit every client is remembered. -/
def remember (t : DropTable) (client : Address) (now : Binary64) : Answered :=
  t.answered.remember (t.capacity?.getD (t.answered.length + 1)) client now

/-- The table after a decision. -/
def settle (t : DropTable) (now : Binary64) : Verdict → DropTable
  | .unreadable => t
  | .listed => { t with droppedListed := t.droppedListed + 1 }
  | .tooSoon => { t with droppedSoon := t.droppedSoon + 1 }
  | .allowed none => t
  | .allowed (some client) => { t with answered := t.remember client now }

/-- Decide about a request from an address at a time. A decision that cannot be made leaves the
table as it is. -/
def step (t : DropTable) (text : String) (now : Binary64) : Except Fault Bool × DropTable :=
  match t.verdict text now with
  | .error fault => (.error fault, t)
  | .ok verdict => (.ok verdict.isAllowed, t.settle now verdict)

/-- The journal's record of a request from something that is no address. -/
def noteRequest (text : String) (w : World) : World :=
  if (client? text).isNone then
    w.note .debug .dropTable ("dropping request from unparsable address " ++ Text.quoted text)
  else w

/-- The number of clients remembered. -/
def tracked (t : DropTable) : Nat := t.answered.length

/-- The state of the table for reports. -/
def report (t : DropTable) : Document :=
  .object [("networks", .list (t.networks.map fun n => .text n.text)),
    ("rate_size", t.rateSize), ("rate_interval", t.rateInterval),
    ("tracked", .int t.tracked), ("dropped_cidr", .int t.droppedListed),
    ("dropped_rate", .int t.droppedSoon)]

end DropTable

end Concord
