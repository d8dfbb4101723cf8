import Concord.Address.Reference
import Concord.Packet
import Concord.Quorum

/-!
# Templates of answers

Clients are answered from a template: what the host says about its clock between two corrections. A
template is made from the reference of a round (`Template.fromReference`) and swapped whole. An
answer (`Template.reply`) echoes the time at which the request was sent; when the request's octets
are at hand, bit for bit. The main statement is `length_of_reply`, that an answer is one packet.
-/

namespace Concord

/-- The binary logarithm of the shortest wait in the standard table. -/
def standardPollExponent : Int := 4

/-- The precision that is announced, as a binary logarithm: about a microsecond. -/
def announcedPrecision : Int := -20

/-- The highest stratum that is announced. -/
def highestServedStratum : Int := 15

/-- The binary logarithm of a wait, rounded, as far as it fits the field for it. A wait that is not
positive counts as the shortest. -/
def pollExponent (wait : Binary64) : Except Fault Int :=
  if wait.le .zero then .ok standardPollExponent
  else match wait.log2.nearest? with
    | .error cause => .error (.notIntegral cause)
    | .ok exponent => .ok (max 0 (min 17 exponent))

/-- What is said to clients. The default is the template of a host that is not synchronized. -/
structure Template where
  leap : Int := leapAlarm
  stratum : Int := invalidStratum
  poll : Int := standardPollExponent
  precision : Int := announcedPrecision
  rootDelay : Binary64 := .zero
  rootDispersion : Binary64 := .zero
  refId : Int := 0
  /-- When the clock was last corrected, in the protocol's epoch. -/
  refTime : Binary64 := .zero
deriving DecidableEq

namespace Template

/-- Whether the template is that of a synchronized host. -/
def isSynchronized (t : Template) : Bool := t.leap ≠ leapAlarm && t.stratum < invalidStratum

/-- The template after a correction by a sample of the source at an address. -/
def ofSample (address : String) (s : Sample) (wait dispersion now : Binary64) :
    Except Fault Template := do
  let poll ← pollExponent wait
  let refId ← referenceId address
  return {
    leap := s.leap
    stratum := min (s.stratum + 1) highestServedStratum
    poll
    rootDelay := s.rootDelay.add s.delay
    rootDispersion := s.rootDispersion.add dispersion
    refId
    refTime := toEpoch now }

/-- The template after a correction by a reference. -/
def fromReference (reference : Reference) (wait dispersion now : Binary64) :
    Except Fault Template :=
  ofSample reference.peer.address reference.sample wait dispersion now

/-- The answer to a request as a packet. -/
def answer (t : Template) (request : Packet) (received sent : Binary64) : Packet :=
  { leap := t.leap
    version := if request.version.val = 0 then spokenVersion else request.version
    mode := serverMode
    stratum := t.stratum
    poll := t.poll
    precision := t.precision
    rootDelay := t.rootDelay
    rootDispersion := t.rootDispersion
    refId := t.refId
    refTime := t.refTime
    origTime := request.sentTime
    recvTime := toEpoch received
    sentTime := toEpoch sent }

/-- An answer with the octets in which the request says when it was sent. -/
def echo (request answer : List UInt8) : List UInt8 :=
  answer.take 24 ++ (request.drop 40).take 8 ++ answer.drop 32

/-- The answer to a request, whose octets may be given. -/
def reply (t : Template) (request : Packet) (raw : Option (List UInt8))
    (received sent : Binary64) : Except Fault (List UInt8) := do
  let octets ← (t.answer request received sent).encode
  return match raw with
    | none => octets
    | some data => echo data octets

/-- An answer is one packet, also when it echoes octets of a whole request. -/
theorem length_of_reply {t : Template} {request : Packet} {raw : Option (List UInt8)}
    {received sent : Binary64} {octets : List UInt8}
    (hraw : ∀ data, raw = some data → packetSize ≤ data.length)
    (h : t.reply request raw received sent = .ok octets) : octets.length = packetSize := by
  simp only [reply, bind_eq_ok] at h
  obtain ⟨encoded, hencoded, h⟩ := h
  have hlength := Packet.length_of_encode hencoded
  cases raw with
  | none =>
    cases h
    exact hlength
  | some data =>
    cases h
    have := hraw data rfl
    simp only [packetSize] at *
    simp only [echo, List.length_append, List.length_take, List.length_drop]
    omega

/-- The state of a template for reports. The reference identifier is written in hexadecimal. -/
def report (t : Template) : Document :=
  let digits := Text.hexDigits (if t.refId < 0 then 7 else 8) t.refId.natAbs
  .object [("leap", .int t.leap), ("stratum", .int t.stratum), ("poll", .int t.poll),
    ("precision", .int t.precision), ("root_delay", .real t.rootDelay),
    ("root_dispersion", .real t.rootDispersion),
    ("ref_id", .text (Binary64.minus (t.refId < 0) ++ String.ofList digits)),
    ("ref_timestamp", .real t.refTime), ("synchronized", .bool t.isSynchronized)]

end Template

end Concord
