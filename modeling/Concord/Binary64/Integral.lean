import Concord.Binary64.Rounding

/-!
# Nearest integers and binary logarithms

`Binary64.nearest?` takes the nearest integer, a half going to the even one. Infinities and
not-a-number have none. `Binary64.log2` is the binary logarithm rounded to the nearest number.
-/

namespace Concord

/-- Why a number cannot be made whole. -/
inductive NotIntegral where
  | nan
  | infinite
deriving DecidableEq

namespace Binary64

/-- The nearest integer, a half going to the even one. -/
def nearest? : Binary64 → Except NotIntegral Int
  | nan => .error .nan
  | infinite _ => .error .infinite
  | finite negative m => .ok (signedUnits negative (divHalfEven m.units unitsPerOne))

/-- The binary places carried while squaring. -/
def logCarry : Nat := 256

/-- The first `count` binary places of the logarithm of a number in `[1, 2)` with `logCarry` places:
squaring doubles the logarithm, and the square reaches two exactly when the next place is one. -/
def logPlaces : Nat → Nat → Nat
  | 0, _ => 0
  | count + 1, y =>
    let square := (y * y) >>> logCarry
    if square >>> (logCarry + 1) = 0 then logPlaces count square
    else 2 ^ count + logPlaces count (square >>> 1)

/-- The binary logarithm of a positive number. Eighty binary places of it decide the rounding, with
one more to tell an exact logarithm, of a power of two, from all others. -/
def log2 : Binary64 → Binary64
  | infinite false => infinite false
  | finite false m =>
    if m.units = 0 then infinite true else
    let power := m.units.log2
    let rest := logPlaces 80 ((m.units <<< logCarry) >>> power)
    let exact := m.units = 2 ^ power
    let scaled := ((power : Int) - 1074) * 2 ^ 81 + 2 * rest + if exact then 0 else 1
    ofRatio (scaled < 0) scaled.natAbs (2 ^ 81)
  | _ => nan

end Binary64

end Concord
