import Concord.Address.Basic
import Concord.Address.Digest
import Concord.Failure

/-!
# Reference identifiers

A server tells its clients which source it follows by a word of 32 bits: the address of a source of
the fourth version, and the first octets of the digest of an address of the sixth.
-/

namespace Concord

/-- The reference identifier of an address. -/
def Address.referenceId : Address → Nat
  | v4 bits => bits.toNat
  | v6 bits => ofOctets ((Digest.md5 (toOctets 16 bits.toNat)).take 4)

/-- The reference identifier of a source whose address is given as a text, without its zone. -/
def referenceId (address : String) : Except Fault Nat :=
  match Address.readHost? address with
  | some a => .ok a.referenceId
  | none => .error (.address (String.ofList (address.toList.takeWhile (· ≠ '%'))))

/-- A reference identifier has 32 bits. -/
theorem Address.referenceId_lt (a : Address) : a.referenceId < 2 ^ 32 := by
  cases a with
  | v4 bits => exact bits.isLt
  | v6 bits =>
    refine Nat.lt_of_lt_of_le (ofOctets_lt _) ?_
    rw [List.length_take, Digest.length_md5]
    decide

end Concord
