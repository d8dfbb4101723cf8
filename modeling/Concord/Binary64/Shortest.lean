import Concord.Binary64.Basic

/-!
# The shortest decimal numeral of a number

Reading a decimal numeral rounds it, so an interval of real numbers around a finite number reads
back as that number. `Magnitude.shortest` is the numeral in that interval with the fewest digits;
of two such numerals it takes the nearer, and of two equally near the one with an even last digit.
-/

namespace Concord

/-- A decimal numeral, of value `digits * 10 ^ exponent`. -/
structure Numeral where
  digits : Nat
  exponent : Int

/-- The real numbers that round to one number, as a common denominator and three numerators. -/
structure RoundingInterval where
  low : Nat
  value : Nat
  high : Nat
  denominator : Nat
  /-- Whether the two ends themselves round to the number. -/
  closed : Bool

namespace RoundingInterval

/-- Whether the ratio `n / d` rounds to the number. -/
def contains (i : RoundingInterval) (n d : Nat) : Bool :=
  if i.closed then i.low * d ≤ n * i.denominator && n * i.denominator ≤ i.high * d
  else i.low * d < n * i.denominator && n * i.denominator < i.high * d

/-- The exponent of the leading decimal digit of the value. The binary logarithms give it up to
one, and one comparison on either side decides. -/
def leadingExponent (i : RoundingInterval) : Int :=
  let guess := ((i.value.log2 : Int) - i.denominator.log2) * 30103 / 100000
  let reaches (e : Int) : Bool :=
    if 0 ≤ e then i.denominator * 10 ^ e.toNat ≤ i.value
    else i.denominator ≤ i.value * 10 ^ (-e).toNat
  if reaches (guess + 1) then guess + 1 else if reaches guess then guess else guess - 1

/-- The nearest numeral that rounds to the number, among those whose last digit stands at
`10 ^ exponent`. Only the two next to the value can be nearest. -/
def nearestAt (i : RoundingInterval) (exponent : Int) : Option Numeral :=
  let (up, down) := if 0 ≤ exponent then (10 ^ exponent.toNat, 1) else (1, 10 ^ (-exponent).toNat)
  let below := i.value * down / (i.denominator * up)
  let above := below + 1
  let belowFits := i.contains (below * up) down
  let aboveFits := i.contains (above * up) down
  let twice := 2 * (i.value * down)
  let middle := (2 * below + 1) * (i.denominator * up)
  if belowFits && aboveFits then
    some ⟨if twice < middle || (twice == middle && below % 2 == 0) then below else above, exponent⟩
  else if belowFits then some ⟨below, exponent⟩
  else if aboveFits then some ⟨above, exponent⟩
  else none

/-- The shortest numeral that rounds to the number. Seventeen digits always suffice. -/
def shortest (i : RoundingInterval) : Numeral :=
  let leading := i.leadingExponent
  ((List.range 17).findSome? fun (k : Nat) => i.nearestAt (leading - k)).getD ⟨0, 0⟩

end RoundingInterval

namespace Magnitude

/-- The real numbers that round to the magnitude, in quarters of its grid. The grid below a power
of two is finer, except among the smallest numbers. -/
def interval (m : Magnitude) : RoundingInterval :=
  let down := if m.significand = 2 ^ 52 ∧ 0 < m.gridShift then 1 else 2
  let scale := 2 ^ (m.gridShift - 1076)
  { low := (4 * m.significand - down) * scale
    value := 4 * m.significand * scale
    high := (4 * m.significand + 2) * scale
    denominator := 2 ^ (1076 - m.gridShift)
    closed := m.significand % 2 == 0 }

/-- The shortest numeral that reads back as the magnitude. -/
def shortest (m : Magnitude) : Numeral :=
  if m.units = 0 then ⟨0, 0⟩ else m.interval.shortest

end Magnitude

end Concord
