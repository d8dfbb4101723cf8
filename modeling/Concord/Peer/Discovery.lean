import Concord.Peer.Basic
import Concord.World

/-!
# Finding peers

Every name of the configuration is looked up once, and each address found becomes one peer: of
several names that share an address the first one counts, and an address that is refused is left
out. What a name stands for and what becomes of an address is up to a `Directory`, which is that of
the world unless another one is given. `Discovery.accept` takes one address, and `discover` all of
them.
-/

namespace Concord

/-- The addresses of a list, each at its first place. -/
def distinct (addresses : List String) : List String :=
  addresses.foldl (fun found a => if a ∈ found then found else found ++ [a]) []

/-- Why a text is refused as an address. -/
def refusal? (address : String) (w : World) : Option String :=
  if address ∈ w.refused then
    some ("invalid address " ++ Text.quoted address ++ ": " ++ LookupFault.unknownName.message)
  else none

/-- What every new peer has in common. -/
structure PeerDefaults where
  timeout : Document := .real (.ofInt 2)
  maxSamples : Number := .int 3

/-- What peers are found by. Its answers depend on nothing but the questions. -/
structure Directory where
  /-- What a name stands for. -/
  lookup : Document → Lookup
  /-- The peer at an address to which a name led, or why there is none. -/
  peer : PeerDefaults → (origin address : String) → Except String Peer
  /-- A peer is one of the name and at the address that were given. -/
  peer_eq : ∀ {defaults origin address p}, peer defaults origin address = .ok p →
    p.origin = origin ∧ p.address = address

namespace World

/-- What the name service says about a name, each address at its first place. -/
def resolution (w : World) (name : Document) : Lookup :=
  match w.lookup name with
  | .addresses found => .addresses (distinct found)
  | .failed fault => .failed fault

/-- The new peer at an address, unless the address is refused. -/
def newPeer (w : World) (defaults : PeerDefaults) (origin address : String) :
    Except String Peer :=
  match refusal? address w with
  | some reason => .error reason
  | none =>
    .ok { origin, address, timeout := defaults.timeout, maxSamples := defaults.maxSamples }

/-- A new peer is made of the name and the address. -/
theorem newPeer_eq_ok {w : World} {defaults : PeerDefaults} {origin address : String} {p : Peer}
    (h : w.newPeer defaults origin address = .ok p) :
    p = { origin, address, timeout := defaults.timeout, maxSamples := defaults.maxSamples } := by
  unfold newPeer at h
  split at h
  · cases h
  · exact (Except.ok.inj h).symm

/-- The world's own directory. -/
def directory (w : World) : Directory where
  lookup := w.resolution
  peer := w.newPeer
  peer_eq h := by
    rw [newPeer_eq_ok h]
    exact ⟨rfl, rfl⟩

end World

/-- The addresses of a name. A look-up that fails is recorded and finds none. -/
def resolve (name : Document) (w : World) (directory : Directory := w.directory) :
    List String × World :=
  match directory.lookup name with
  | .addresses found => (found, w)
  | .failed fault =>
    ([], w.note .error .peers ("resolve " ++ name.plain ++ " failed: " ++ fault.message))

/-- The addresses of names, each name at its first place. -/
def setAddresses (pool : List (String × List String)) (name : String) (addresses : List String) :
    List (String × List String) :=
  match pool with
  | [] => [(name, addresses)]
  | (other, old) :: rest =>
    if other = name then (name, addresses) :: rest
    else (other, old) :: setAddresses rest name addresses

/-- The pool with the addresses of one more name, if it has any. -/
def addAddresses (pool : List (String × List String)) (name : Document)
    (addresses : List String) : List (String × List String) :=
  match name, addresses with
  | .text name, _ :: _ => setAddresses pool name addresses
  | _, _ => pool

/-- The names that have addresses, with them. A list or an object among the names ends the
look-up. -/
def resolveAll (directory : Directory) : List Document → List (String × List String) → World →
    Except Fault (List (String × List String)) × World
  | [], pool, w => (.ok pool, w)
  | name :: names, pool, w =>
    if name.isKey then
      let (addresses, w) := resolve name w directory
      resolveAll directory names (addAddresses pool name addresses) w
    else (.error (.notAKey name), w)

/-- The peers found so far, and the addresses that were tried, with the names that led to them. -/
structure Discovery where
  peers : List Peer := []
  tried : List (String × String) := []

/-- The discovery after one more address. -/
def Discovery.accept (directory : Directory) (defaults : PeerDefaults) (d : Discovery)
    (origin address : String) (w : World) : Discovery × World :=
  if d.peers.any (·.address = address) then (d, w)
  else
    let d := { d with tried := d.tried ++ [(origin, address)] }
    match directory.peer defaults origin address with
    | .error reason =>
      (d, w.note .error .peers
        ("peer:" ++ origin ++ "->" ++ address ++ " init failed: " ++ reason))
    | .ok p => ({ d with peers := d.peers ++ [p] }, w)

/-- The discovery after the addresses of a list. -/
def Discovery.acceptAll (directory : Directory) (defaults : PeerDefaults) :
    List (String × String) → Discovery → World → Discovery × World
  | [], d, w => (d, w)
  | (origin, address) :: rest, d, w =>
    let (d, w) := d.accept directory defaults origin address w
    acceptAll directory defaults rest d w

/-- The peers of the names of a configuration. -/
def discover (names : List Document) (defaults : PeerDefaults) (w : World)
    (directory : Directory := w.directory) : Except Fault Discovery × World :=
  match resolveAll directory names [] w with
  | (.error fault, w) => (.error fault, w)
  | (.ok pool, w) =>
    let candidates := pool.flatMap fun (name, found) => found.map (name, ·)
    let (found, w) := Discovery.acceptAll directory defaults candidates {} w
    (.ok found, w)

end Concord
