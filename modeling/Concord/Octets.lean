import Concord.Power

/-!
# Octets

Numbers travel as octets, the highest first. `ofOctets` reads them and `toOctets` writes the lowest
octets of a number; the main statement is `ofOctets_toOctets`, that reading gives back the number as
far as the octets hold it.
-/

namespace Concord

/-- The number that octets stand for. -/
def ofOctets (octets : List UInt8) : Nat := octets.foldl (fun n b => n * 256 + b.toNat) 0

/-- The lowest octets of a number, as many as asked for. -/
def toOctets : Nat → Nat → List UInt8
  | 0, _ => []
  | count + 1, n => toOctets count (n / 256) ++ [UInt8.ofNat n]

/-- As many octets are written as are asked for. -/
@[simp] theorem length_toOctets (count n : Nat) : (toOctets count n).length = count := by
  induction count generalizing n with
  | zero => rfl
  | succ count ih => simp [toOctets, ih]

/-- The last octet is the lowest. -/
theorem ofOctets_append_singleton (octets : List UInt8) (b : UInt8) :
    ofOctets (octets ++ [b]) = ofOctets octets * 256 + b.toNat := by
  simp [ofOctets]

/-- Reading gives back what the octets hold of a number. -/
theorem ofOctets_toOctets (count n : Nat) : ofOctets (toOctets count n) = n % 256 ^ count := by
  induction count generalizing n with
  | zero => simp [toOctets, ofOctets, Nat.mod_one]
  | succ count ih =>
    rw [Nat.pow_succ', Nat.mod_mul, toOctets, ofOctets_append_singleton, ih, UInt8.toNat_ofNat']
    omega

/-- Octets hold a number below the power of their base. -/
theorem ofOctets_lt (octets : List UInt8) : ofOctets octets < 256 ^ octets.length := by
  suffices h : ∀ n k, n < 256 ^ k →
      octets.foldl (fun n b => n * 256 + b.toNat) n < 256 ^ (k + octets.length) by
    simpa [ofOctets] using h 0 0 (by simp)
  induction octets with
  | nil => intro n k h; simpa using h
  | cons b rest ih =>
    intro n k h
    have hb := b.toNat_lt
    have := ih (n * 256 + b.toNat) (k + 1) (by rw [Nat.pow_succ]; omega)
    simpa [Nat.add_assoc, Nat.add_comm 1] using this

end Concord
