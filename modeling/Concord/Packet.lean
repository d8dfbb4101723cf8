import Concord.Failure
import Concord.Octets
import Concord.Sample

/-!
# Packets

A packet has 48 octets: four of header fields, two short numbers with sixteen binary places, the
reference identifier, and four times with thirty-two binary places. `Packet.decode` reads them and
`Packet.encode` writes them, numbers cut to their places. Times count from the protocol's own epoch
(`toEpoch`, `fromEpoch`).

The main statements are `length_of_encode`, that what is written has 48 octets, and
`decode_eq_error_iff`, that exactly shorter data is refused.
-/

namespace Concord

/-- The number of octets in a packet. -/
def packetSize : Nat := 48

/-- The mode of a request. -/
def clientMode : Fin 8 := 3

/-- The mode of an answer. -/
def serverMode : Fin 8 := 4

/-- The version of the protocol that is spoken. -/
def spokenVersion : Fin 8 := 4

/-- The seconds from the protocol's epoch to that of the clock. -/
def epochDistance : Binary64 := .ofInt 2208988800

/-- A time of the clock in the protocol's epoch. -/
def toEpoch (time : Binary64) : Binary64 := time.add epochDistance

/-- A time of the protocol's epoch on the clock. -/
def fromEpoch (time : Binary64) : Binary64 := time.sub epochDistance

/-- A packet. -/
structure Packet where
  leap : Int
  version : Fin 8
  mode : Fin 8
  stratum : Int
  poll : Int
  precision : Int
  rootDelay : Binary64
  rootDispersion : Binary64
  refId : Int
  /-- When the sender's clock was last set. -/
  refTime : Binary64
  /-- When the request that is answered was sent. -/
  origTime : Binary64
  /-- When that request arrived. -/
  recvTime : Binary64
  /-- When the packet was sent. -/
  sentTime : Binary64
deriving DecidableEq

namespace Packet

/-! ## Reading -/

/-- The number in octets of some data. -/
def field (data : List UInt8) (start count : Nat) : Nat := ofOctets ((data.drop start).take count)

/-- A number with binary places. -/
def withPlaces (bits n : Nat) : Binary64 := .ofRatio false n (2 ^ bits)

/-- The value of an octet with a sign. -/
def signedOctet (n : Nat) : Int := if n < 128 then n else n - 256

/-- The packet at the beginning of some data. -/
def decode (data : List UInt8) : Except Fault Packet :=
  if data.length < packetSize then .error .packet
  else
    let first := field data 0 1
    .ok
      { leap := (first / 64 % 4 : Nat)
        version := Fin.ofNat 8 (first / 8)
        mode := Fin.ofNat 8 first
        stratum := field data 1 1
        poll := field data 2 1
        precision := signedOctet (field data 3 1)
        rootDelay := withPlaces 16 (field data 4 4)
        rootDispersion := withPlaces 16 (field data 8 4)
        refId := field data 12 4
        refTime := withPlaces 32 (field data 16 8)
        origTime := withPlaces 32 (field data 24 8)
        recvTime := withPlaces 32 (field data 32 8)
        sentTime := withPlaces 32 (field data 40 8) }

/-- Exactly data that is too short is refused. -/
theorem decode_eq_error_iff (data : List UInt8) :
    decode data = .error .packet ↔ data.length < packetSize := by
  unfold decode
  split <;> simp_all

/-! ## Writing -/

/-- The whole part of a number and its first binary places, as one integer. The places of a negative
number count upwards from its whole part. -/
def fixedPoint (bits : Nat) : Binary64 → Except Fault Int
  | .nan => .error (.notIntegral .nan)
  | .infinite _ => .error (.notIntegral .infinite)
  | .finite negative m =>
    .ok (Binary64.signedUnits negative m.whole * 2 ^ bits + m.places bits)

/-- A number in a field without a sign, if it fits. -/
def place (count : Nat) (value : Int) : Except Fault (List UInt8) :=
  if 0 ≤ value ∧ value < 256 ^ count then .ok (toOctets count value.toNat)
  else .error .packetField

/-- A number in an octet with a sign, if it fits. -/
def placeSigned (value : Int) : Except Fault (List UInt8) :=
  if -128 ≤ value ∧ value < 128 then .ok (toOctets 1 (value % 256).toNat)
  else .error .packetField

/-- The octets of fields one after the other, if all of them fit. -/
def joinFields : List (Except Fault (List UInt8)) → Except Fault (List UInt8)
  | [] => .ok []
  | field :: rest => do
    let octets ← field
    let others ← joinFields rest
    return octets ++ others

/-- The octets of a packet. Numbers that are not finite are reported before fields that do not
fit. -/
def encode (p : Packet) : Except Fault (List UInt8) := do
  let rootDelay ← fixedPoint 16 p.rootDelay
  let rootDispersion ← fixedPoint 16 p.rootDispersion
  let refTime ← fixedPoint 32 p.refTime
  let origTime ← fixedPoint 32 p.origTime
  let recvTime ← fixedPoint 32 p.recvTime
  let sentTime ← fixedPoint 32 p.sentTime
  joinFields [place 1 (p.leap * 64 + p.version.val * 8 + p.mode.val), place 1 p.stratum,
    place 1 p.poll, placeSigned p.precision, place 4 rootDelay, place 4 rootDispersion,
    place 4 p.refId, place 8 refTime, place 8 origTime, place 8 recvTime, place 8 sentTime]

/-- A field that fits has its width. -/
theorem length_of_place {count : Nat} {value : Int} {octets : List UInt8}
    (h : place count value = .ok octets) : octets.length = count := by
  unfold place at h
  split at h
  · cases h
    exact length_toOctets ..
  · cases h

/-- A field with a sign has one octet. -/
theorem length_of_placeSigned {value : Int} {octets : List UInt8}
    (h : placeSigned value = .ok octets) : octets.length = 1 := by
  unfold placeSigned at h
  split at h
  · cases h
    exact length_toOctets ..
  · cases h

/-- Fields are joined when each of them fits. -/
theorem joinFields_cons_eq_ok {field : Except Fault (List UInt8)}
    {rest : List (Except Fault (List UInt8))} {octets : List UInt8} :
    joinFields (field :: rest) = .ok octets ↔
      ∃ first others, field = .ok first ∧ joinFields rest = .ok others ∧
        octets = first ++ others := by
  cases field with
  | error fault => simp [joinFields, bind, Except.bind]
  | ok first =>
    cases h : joinFields rest with
    | error fault => simp [joinFields, h, bind, Except.bind]
    | ok others => simp [joinFields, h, bind, Except.bind, pure, Except.pure, eq_comm]

/-- What is written has the size of a packet. -/
theorem length_of_encode {p : Packet} {octets : List UInt8} (h : p.encode = .ok octets) :
    octets.length = packetSize := by
  simp only [encode, bind_eq_ok, joinFields_cons_eq_ok] at h
  obtain ⟨_, _, _, _, _, _, _, _, _, _, _, _, _, _, h1, ⟨_, _, h2, ⟨_, _, h3, ⟨_, _, h4,
    ⟨_, _, h5, ⟨_, _, h6, ⟨_, _, h7, ⟨_, _, h8, ⟨_, _, h9, ⟨_, _, h10, ⟨_, _, h11, hend, rfl⟩,
    rfl⟩, rfl⟩, rfl⟩, rfl⟩, rfl⟩, rfl⟩, rfl⟩, rfl⟩, rfl⟩, rfl⟩ := h
  cases hend
  simp only [List.length_append, length_of_place h1, length_of_place h2, length_of_place h3,
    length_of_placeSigned h4, length_of_place h5, length_of_place h6, length_of_place h7,
    length_of_place h8, length_of_place h9, length_of_place h10, length_of_place h11]
  rfl

/-! ## Samples -/

/-- What an answer that arrived at the given time says. -/
def sample (p : Packet) (arrived : Binary64) : Sample :=
  { offset := ((p.recvTime.sub p.origTime).add (p.sentTime.sub arrived)).half
    stratum := p.stratum
    leap := p.leap
    delay := (arrived.sub p.origTime).sub (p.sentTime.sub p.recvTime)
    rootDelay := p.rootDelay
    rootDispersion := p.rootDispersion
    refId := p.refId
    sentAt := fromEpoch p.sentTime }

end Packet

end Concord
