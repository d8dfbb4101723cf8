import Concord.Power

/-!
# Binary64 numbers

Seconds are binary64 numbers. A finite one is a sign and a whole number of units of `2 ^ -1074`,
the smallest positive value of the format, so its value has one representation and the order is
the order of integers. The units of a finite number fit 53 significant bits below the top of the
range (`Representable`), and every number of the format is a value of `Binary64`; the payloads of
not-a-number are not kept apart.

The main statement is `representable_shift`: an integer of at most 53 bits, shifted left, fits.
-/

namespace Concord

/-- The number of units of `2 ^ -1074` in one. -/
def unitsPerOne : Nat := 2 ^ 1074

/-- There are units in one. -/
theorem unitsPerOne_pos : 0 < unitsPerOne := by
  unfold unitsPerOne
  generalize 1074 = n
  exact Nat.two_pow_pos n

/-- The first number of units above the largest finite value, `2 ^ 1024`. -/
def unitsLimit : Nat := 2 ^ 2098

/-- A number of units fits the format: it is below the limit and a multiple of a power of two
that leaves at most 53 significant bits. -/
def Representable (units : Nat) : Prop :=
  units < unitsLimit ∧ ∃ shift, 2 ^ shift ∣ units ∧ units < 2 ^ (53 + shift)

/-- The absolute value of a finite number. -/
structure Magnitude where
  /-- The value in units of `2 ^ -1074`. -/
  units : Nat
  /-- The units fit the format. -/
  fits : Representable units
deriving DecidableEq

/-- A binary64 number. -/
inductive Binary64 where
  /-- Not a number. -/
  | nan
  /-- An infinity of the given sign. -/
  | infinite (negative : Bool)
  /-- A finite number; a negative zero is kept apart from a positive one. -/
  | finite (negative : Bool) (magnitude : Magnitude)
deriving DecidableEq

/-- An integer below `2 ^ 53`, shifted left, fits the format as long as it stays below the
limit. -/
theorem representable_shift {significand shift : Nat} (hsmall : significand < 2 ^ 53)
    (hlimit : significand * 2 ^ shift < unitsLimit) :
    Representable (significand * 2 ^ shift) := by
  refine ⟨hlimit, shift, Nat.dvd_mul_left _ _, ?_⟩
  rw [Nat.pow_add]
  exact Nat.mul_lt_mul_of_pos_right hsmall (Nat.two_pow_pos shift)

/-- No units fit the format. -/
theorem representable_zero : Representable 0 := by
  refine ⟨?_, 0, Nat.dvd_zero _, Nat.two_pow_pos _⟩
  unfold unitsLimit
  generalize 2098 = n
  exact Nat.two_pow_pos n

namespace Magnitude

/-- The magnitude of the two zeros. -/
def zero : Magnitude := ⟨0, representable_zero⟩

instance : Inhabited Magnitude := ⟨zero⟩

/-- The position of the last of the 53 significant bits: units of the next number above are
`2 ^ gridShift` larger. -/
def gridShift (m : Magnitude) : Nat := m.units.log2 - 52

/-- The integer of at most 53 bits that, shifted by `gridShift`, gives the units. -/
def significand (m : Magnitude) : Nat := m.units >>> m.gridShift

/-- The whole part of the value. -/
def whole (m : Magnitude) : Nat := m.units / unitsPerOne

/-- The first `bits` binary places of the value, as an integer below `2 ^ bits`. -/
def places (bits : Nat) (m : Magnitude) : Nat := m.units % unitsPerOne * 2 ^ bits / unitsPerOne

end Magnitude

namespace Binary64

/-- The zero of the given sign. -/
def signedZero (negative : Bool) : Binary64 := .finite negative .zero

/-- The positive zero. -/
def zero : Binary64 := signedZero false

instance : Inhabited Binary64 := ⟨zero⟩

/-- Whether the number is not-a-number. -/
def isNaN : Binary64 → Bool
  | nan => true
  | _ => false

/-- Whether the number is neither infinite nor not-a-number. -/
def isFinite : Binary64 → Bool
  | finite _ _ => true
  | _ => false

/-- The sign applied to a number of units. -/
def signedUnits (negative : Bool) (units : Nat) : Int := if negative then -(units : Int) else units

/-- The value in units, when the number is finite. Both zeros have the value zero. -/
def units? : Binary64 → Option Int
  | finite negative m => some (signedUnits negative m.units)
  | _ => none

/-- The position in the order of all numbers: negative infinity, the finite numbers by value, the
positive infinity, and last not-a-number. The two zeros share a position. -/
def rank : Binary64 → Int
  | infinite true => -(unitsLimit : Int)
  | finite negative m => signedUnits negative m.units
  | infinite false => unitsLimit
  | nan => unitsLimit + 1

/-- The first number is smaller. Not-a-number is neither smaller nor larger than any number. -/
def lt (x y : Binary64) : Bool := !x.isNaN && !y.isNaN && decide (x.rank < y.rank)

/-- The first number is smaller or they are equal. -/
def le (x y : Binary64) : Bool := !x.isNaN && !y.isNaN && decide (x.rank ≤ y.rank)

/-- The number without its sign. -/
def abs : Binary64 → Binary64
  | nan => nan
  | infinite _ => infinite false
  | finite _ m => finite false m

/-- The number with the other sign. -/
def neg : Binary64 → Binary64
  | nan => nan
  | infinite negative => infinite (!negative)
  | finite negative m => finite (!negative) m

/-- The absolute value is not-a-number exactly when the number is. -/
theorem isNaN_abs (x : Binary64) : x.abs.isNaN = x.isNaN := by cases x <;> rfl

/-- Of numbers, smaller means an earlier position. -/
theorem lt_iff_rank {x y : Binary64} (hx : x.isNaN = false) (hy : y.isNaN = false) :
    lt x y = true ↔ x.rank < y.rank := by
  simp [lt, hx, hy]

end Binary64

end Concord
