import Concord.Octets
import Concord.Text.Digit
import Concord.Text.Parts
import Concord.Text.Quoted

/-!
# Addresses of hosts

An address of either version is a word of bits. `Address.read?` takes the usual texts: four decimal
octets, or eight groups of hexadecimal digits, of which one run of zeros may be left out and the
last two may be written as four octets. `Address.text` writes the groups in the shortest way. An
address of the fourth version that is embedded in one of the sixth is taken out by `unmapped`.
-/

namespace Concord

/-- The address of a host. -/
inductive Address where
  /-- Four octets. -/
  | v4 (bits : BitVec 32)
  /-- Eight groups of sixteen bits. -/
  | v6 (bits : BitVec 128)
deriving DecidableEq

namespace Address

/-! ## Reading -/

/-- The number of decimal digits, of which there is at least one. -/
def decimal? (chars : List Char) : Option Nat :=
  if chars.isEmpty || !chars.all Char.isDigit then none
  else some (chars.foldl (fun n c => n * 10 + (c.toNat - '0'.toNat)) 0)

/-- The value of an octet: at most three digits, and no zero in front of others. -/
def octet? (chars : List Char) : Option Nat := do
  let n ← decimal? chars
  guard (chars.length ≤ 3 ∧ (chars.head? ≠ some '0' ∨ chars.length = 1) ∧ n ≤ 255)
  return n

/-- The number of four octets with points between them. -/
def octets? (chars : List Char) : Option Nat := do
  let values ← (Text.parts '.' chars).mapM octet?
  guard (values.length = 4)
  return values.foldl (fun n v => n * 256 + v) 0

/-- The value of a group of one to four hexadecimal digits. -/
def group? (chars : List Char) : Option Nat := do
  guard (chars ≠ [] ∧ chars.length ≤ 4)
  let digits ← chars.mapM Text.hexValue?
  return digits.foldl (fun n d => n * 16 + d) 0

/-- The values of groups of which the last may be four octets, which are two groups. -/
def groupsOf? : List (List Char) → Option (List Nat)
  | [] => some []
  | [last] =>
    if '.' ∈ last then (octets? last).map fun n => [n / 65536, n % 65536]
    else (group? last).map fun g => [g]
  | first :: second :: others => do
    let g ← group? first
    let gs ← groupsOf? (second :: others)
    return g :: gs

/-- The values of the groups in a text with colons between them. An empty text has none. -/
def groups? (chars : List Char) : Option (List Nat) :=
  if chars.isEmpty then some [] else groupsOf? (Text.parts ':' chars)

/-- The values of groups none of which may be four octets. -/
def plainGroups? (chars : List Char) : Option (List Nat) :=
  if chars.isEmpty then some [] else (Text.parts ':' chars).mapM group?

/-- What stands before and after the first pair of colons, if there is one. -/
def cutGap : List Char → Option (List Char × List Char)
  | ':' :: ':' :: rest => some ([], rest)
  | c :: rest => (cutGap rest).map fun cut => (c :: cut.1, cut.2)
  | [] => none

/-- The eight groups of an address. A pair of colons stands for one or more groups of zero. -/
def eightGroups? (chars : List Char) : Option (List Nat) :=
  match cutGap chars with
  | some (before, after) => do
    let high ← plainGroups? before
    let low ← groups? after
    guard (high.length + low.length ≤ 7)
    return high ++ List.replicate (8 - (high.length + low.length)) 0 ++ low
  | none => do
    let all ← groups? chars
    guard (all.length = 8)
    return all

/-- The number of groups of sixteen bits. -/
def ofGroups (groups : List Nat) : Nat := groups.foldl (fun n g => n * 65536 + g) 0

/-- The address of a text. -/
def read? (chars : List Char) : Option Address :=
  match octets? chars with
  | some n => some (v4 (.ofNat 32 n))
  | none => (eightGroups? chars).map fun groups => v6 (.ofNat 128 (ofGroups groups))

/-- The address of a text from which everything from the first percent sign on is cut off. -/
def readHost? (text : String) : Option Address :=
  read? (text.toList.takeWhile (· ≠ '%'))

/-! ## Writing -/

/-- Four octets with points between them. -/
def dotted (bits : BitVec 32) : String :=
  ".".intercalate ((toOctets 4 bits.toNat).map fun b => toString b.toNat)

/-- The eight groups of an address. -/
def groups (bits : BitVec 128) : List Nat :=
  (List.range 8).map fun i => bits.toNat / 65536 ^ (7 - i) % 65536

/-- The place and the length of the first of the longest runs of zero groups. -/
def longestGap (groups : List Nat) : Nat × Nat :=
  (List.range groups.length).foldl
    (fun best start =>
      let run := ((groups.drop start).takeWhile (· = 0)).length
      if best.2 < run then (start, run) else best)
    (0, 0)

/-- Groups in hexadecimal with colons between them. -/
def joined (groups : List Nat) : String :=
  ":".intercalate (groups.map fun g => String.ofList (Text.hexDigits 1 g))

/-- Groups in hexadecimal. The first of the longest runs of two or more zeros is left out. -/
def compressed (bits : BitVec 128) : String :=
  let all := groups bits
  let (start, run) := longestGap all
  if run < 2 then joined all
  else joined (all.take start) ++ "::" ++ joined (all.drop (start + run))

/-- The text of an address. -/
def text : Address → String
  | v4 bits => dotted bits
  | v6 bits => compressed bits

/-! ## Parts of an address -/

/-- The address of the fourth version that an address of the sixth embeds, and any other address as
it is. -/
def unmapped : Address → Address
  | v4 bits => v4 bits
  | v6 bits =>
    if bits.toNat / 2 ^ 32 = 0xffff then v4 (.ofNat 32 bits.toNat) else v6 bits

end Address

end Concord
