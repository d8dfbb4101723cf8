import Concord.Peer.Basic
import Concord.World

/-!
# The reference of a round

The reference is one sample: of all eligible samples, sorted by offset with ties in their own order,
the one at half their number, rounded down. It is the upper median of an even number. No sample
weighs more than another, so a majority of samples that agree decides. Offsets that are not-a-number
have no order, and `Quorum.sortByOffset` puts them last. `Quorum.choose` is the choice; the main
statement is `sortByOffset_perm`, that sorting loses and adds nothing.
-/

namespace Concord

/-- A sample together with the peer it came from, and the places of both. -/
structure Reference where
  /-- The peer's place in the peer list. -/
  peerIndex : Nat
  /-- The sample's place among the samples of the peer. -/
  sampleIndex : Nat
  peer : Peer
  sample : Sample
deriving DecidableEq

/-- The offset of a reference. -/
def Reference.offset (r : Reference) : Binary64 := r.sample.offset

/-- The reference in the running text of a message. -/
def Reference.shown (r : Reference) : String :=
  "OffsetPeer(" ++ r.peer.address ++ ", offset=" ++ r.offset.signedFixed 6 ++ "s)"

namespace Quorum

/-- The eligible samples of one peer: if it is healthy, those of a valid stratum, in order. -/
def eligibleOf (peerIndex : Nat) (p : Peer) : List Reference :=
  if p.healthy then
    (p.samples.zipIdx.filter fun s => decide (s.1.stratum < invalidStratum)).map
      fun s => ⟨peerIndex, s.2, p, s.1⟩
  else []

/-- The eligible samples of all peers, in the order of the peers. -/
def eligible (peers : List Peer) : List Reference :=
  peers.zipIdx.flatMap fun p => eligibleOf p.2 p.1

/-- A sorted list with one more reference, in front of those whose offsets are not smaller.
Not-a-number counts as larger than all other offsets. -/
def insertByOffset (r : Reference) : List Reference → List Reference
  | [] => [r]
  | s :: rest =>
    if s.offset.rank < r.offset.rank then s :: insertByOffset r rest else r :: s :: rest

/-- The references by ascending offset. Those of equal offsets keep their order. This is the order
of the program only where no offset is not-a-number. Here not-a-number goes last. In the program it
is neither smaller nor larger than anything, so that the order of the others, and with it the
median, may depend on where it stood before. -/
def sortByOffset (references : List Reference) : List Reference :=
  references.foldr insertByOffset []

/-- Whether there are fewer references than required. -/
def tooFew (references : List Reference) (required : Number) : Bool :=
  (Number.int references.length).lt required

/-- The median of references: the one at half their number in the order of their offsets, if there
are at least as many as required. -/
def median (references : List Reference) (required : Number) : Option Reference :=
  if tooFew references required then none
  else (sortByOffset references)[references.length / 2]?

/-- The reference of a round. -/
def choose (peers : List Peer) (required : Number) : Option Reference :=
  median (eligible peers) required

/-- The journal's records of a choice. -/
def noteMedian (references : List Reference) (required : Number) (w : World) : World :=
  if references.isEmpty then w else
  let w := w.note .debug .quorum ("candidates: " ++ ",".intercalate
    ((sortByOffset references).map fun r =>
      r.peer.address ++ ":" ++ r.offset.signedFixed 6))
  if tooFew references required then
    w.note .debug .quorum ("only " ++ toString references.length ++ " candidates, need " ++
      required.text)
  else w

/-- Inserting adds one reference. -/
theorem insertByOffset_perm (r : Reference) (sorted : List Reference) :
    (insertByOffset r sorted).Perm (r :: sorted) := by
  induction sorted with
  | nil => exact .refl _
  | cons s rest ih =>
    simp only [insertByOffset]
    split
    · exact (ih.cons s).trans (.swap r s rest)
    · exact .refl _

/-- Sorting loses and adds nothing. -/
theorem sortByOffset_perm (references : List Reference) :
    (sortByOffset references).Perm references := by
  induction references with
  | nil => exact .refl _
  | cons r rest ih => exact (insertByOffset_perm r _).trans (ih.cons r)

end Quorum

end Concord
