import Concord.Address.Basic
import Concord.Failure

/-!
# Networks

A network is a block of addresses that agree in their first bits. Its text is an address and, after
a slash, the number of these bits; for the fourth version the mask may be given instead, by its ones
or by its zeros. Bits of the address behind the mask are cleared, so that the base of a block has
none (`Block.aligned`). The main statement is `Block.mem_of`: a block holds an address exactly when
both agree in the bits of the mask.
-/

namespace Concord

/-- A mask of ones at the top of a word. -/
def mask (width length : Nat) : BitVec width := BitVec.allOnes width <<< (width - length)

/-- The words of some width that agree in their first bits. -/
structure Block (width : Nat) where
  /-- The first of the words. -/
  base : BitVec width
  /-- The number of bits in which the words agree. -/
  length : Nat
  /-- There are as many bits. -/
  length_le : length ≤ width
  /-- The other bits of the first word are zero. -/
  aligned : base &&& mask width length = base
deriving DecidableEq

namespace Block

variable {width : Nat}

/-- The block of a word. -/
def of (word : BitVec width) (length : Nat) (h : length ≤ width) : Block width :=
  ⟨word &&& mask width length, length, h, by rw [BitVec.and_assoc, BitVec.and_self]⟩

/-- The block holds the word. -/
def contains (block : Block width) (word : BitVec width) : Bool :=
  word &&& mask width block.length = block.base

/-- A block holds the words that agree with its own in the bits of the mask. -/
theorem mem_of (word other : BitVec width) (length : Nat) (h : length ≤ width) :
    (of word length h).contains other = true ↔
      other &&& mask width length = word &&& mask width length :=
  decide_eq_true_iff

end Block

/-- A block of addresses of either version. -/
inductive Network where
  | v4 (block : Block 32)
  /-- A network of the sixth version may name the zone that its address was given with. -/
  | v6 (block : Block 128) (zone : Option String)
deriving DecidableEq

namespace Network

/-! ## Reading -/

/-- A number of bits of at most the given width. Its digits are not limited otherwise. -/
def length? (width : Nat) (chars : List Char) : Option { n : Nat // n ≤ width } := do
  let n ← Address.decimal? chars
  guard (chars.length ≤ Text.maxDigits)
  if h : n ≤ width then return ⟨n, h⟩ else none

/-- The number of bits of a mask that is given as an address, by its ones or else by its zeros. -/
def maskLength? (bits : BitVec 32) : Option { n : Nat // n ≤ 32 } :=
  let lengths := (List.range 33).attach.map fun n => ⟨n.1, by have := List.mem_range.1 n.2; omega⟩
  (lengths.find? fun n => mask 32 n.1 = bits) <|> lengths.find? fun n => mask 32 n.1 = ~~~bits

/-- The number of bits that the text after a slash stands for. -/
def length4? (chars : List Char) : Option { n : Nat // n ≤ 32 } :=
  length? 32 chars <|> do maskLength? (.ofNat 32 (← Address.octets? chars))

/-- A zone: it is not empty and holds no percent sign. -/
def zone? (chars : List Char) : Option String := do
  guard (chars ≠ [] ∧ '%' ∉ chars)
  return String.ofList chars

/-- The network of an address of the fourth version and the text after the slash. -/
def read4? (address : List Char) (length : Option (List Char)) : Option Network := do
  let n ← Address.octets? address
  let ⟨count, h⟩ ← match length with
    | none => some ⟨32, Nat.le_refl 32⟩
    | some chars => length4? chars
  return v4 (.of (.ofNat 32 n) count h)

/-- The network of an address of the sixth version and the text after the slash. The zone is
dropped together with bits of the address behind the mask. -/
def read6? (address : List Char) (length : Option (List Char)) : Option Network := do
  let (address, zone) ← match Text.cutFirst '%' address with
    | none => some (address, none)
    | some (address, zone) => (zone? zone).map fun zone => (address, some zone)
  let groups ← Address.eightGroups? address
  let ⟨count, h⟩ ← match length with
    | none => some ⟨128, Nat.le_refl 128⟩
    | some chars => length? 128 chars
  let bits := BitVec.ofNat 128 (Address.ofGroups groups)
  let block := Block.of bits count h
  return v6 block (if block.base = bits then zone else none)

/-- The network of a text. -/
def read? (chars : List Char) : Option Network :=
  match Text.parts '/' chars with
  | [address] => read4? address none <|> read6? address none
  | [address, length] => read4? address (some length) <|> read6? address (some length)
  | _ => none

/-- The network of a text, without the blanks around it. -/
def ofText (cidr : String) : Except ConfigFault Network :=
  let stripped := Text.strip cidr
  match read? stripped.toList with
  | none => .error (.network cidr stripped)
  | some network => .ok network

/-! ## Writing and membership -/

/-- The text of a network. -/
def text : Network → String
  | v4 block => (Address.v4 block.base).text ++ "/" ++ toString block.length
  | v6 block zone =>
    (Address.v6 block.base).text ++ (match zone with
      | none => ""
      | some zone => "%" ++ zone) ++ "/" ++ toString block.length

/-- The network holds the address, which has the same version then. -/
def contains : Network → Address → Bool
  | v4 block, .v4 bits => block.contains bits
  | v6 block _, .v6 bits => block.contains bits
  | _, _ => false

end Network

end Concord
