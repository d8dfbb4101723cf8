import Concord.Binary64.Basic
import Concord.Binary64.IntegerRoot

/-!
# Rounding to binary64

Every operation computes its result exactly, as a ratio of integers in units of `2 ^ -1074`, and
rounds once to the nearest number of the format, a half going to the even neighbour. Results past
the largest finite number are infinite.

The main statements are `le_divHalfEven` and `divHalfEven_le`, which bound one rounding, and
`fits_roundUnits`, which says that a rounded number of units has at most 53 significant bits.
-/

namespace Concord

/-- The quotient rounded to the nearest integer, a half going to the even one. -/
def divHalfEven (n d : Nat) : Nat :=
  if 2 * (n % d) < d ∨ (2 * (n % d) = d ∧ n / d % 2 = 0) then n / d else n / d + 1

/-- Rounding does not go below the quotient. -/
theorem le_divHalfEven (n d : Nat) : n / d ≤ divHalfEven n d := by
  unfold divHalfEven; split <;> omega

/-- Rounding goes up by at most one. -/
theorem divHalfEven_le (n d : Nat) : divHalfEven n d ≤ n / d + 1 := by
  unfold divHalfEven; split <;> omega

/-- A multiple of the divisor is divided exactly. -/
theorem divHalfEven_mul_right (n : Nat) {d : Nat} (hd : 0 < d) : divHalfEven (n * d) d = n := by
  simp [divHalfEven, Nat.mul_mod_left, Nat.mul_div_cancel _ hd, hd]

/-- The ratio `n / d` of units rounded to 53 significant bits. -/
def roundUnits (n d : Nat) : Nat :=
  let shift := (n / d).log2 - 52
  divHalfEven n (d * 2 ^ shift) * 2 ^ shift

/-- The significand of a rounded ratio is at most the first number of more than 53 bits. -/
theorem significand_le (n d : Nat) : divHalfEven n (d * 2 ^ ((n / d).log2 - 52)) ≤ 2 ^ 53 := by
  have hlog : n / d < 2 ^ ((n / d).log2 + 1) := Nat.lt_log2_self
  have hbound : n / (d * 2 ^ ((n / d).log2 - 52)) < 2 ^ 53 := by
    rw [← Nat.div_div_eq_div_mul]
    apply Nat.div_lt_of_lt_mul
    rw [← Nat.pow_add]
    exact Nat.lt_of_lt_of_le hlog (Nat.pow_le_pow_right (by omega) (by omega))
  exact Nat.le_trans (divHalfEven_le _ _) (Nat.succ_le_of_lt hbound)

/-- A rounded ratio has at most 53 significant bits. -/
theorem fits_roundUnits (n d : Nat) :
    ∃ shift, 2 ^ shift ∣ roundUnits n d ∧ roundUnits n d < 2 ^ (53 + shift) := by
  simp only [roundUnits]
  rcases Nat.lt_or_eq_of_le (significand_le n d) with hlt | heq
  · refine ⟨_, Nat.dvd_mul_left _ _, ?_⟩
    rw [Nat.pow_add]
    exact Nat.mul_lt_mul_of_pos_right hlt (Nat.two_pow_pos _)
  · refine ⟨(n / d).log2 - 52 + 1, ?_, ?_⟩
    · rw [heq, Nat.pow_succ', show (2 : Nat) ^ 53 = 2 * 2 ^ 52 from rfl]
      exact Nat.mul_dvd_mul (Nat.dvd_mul_right _ _) (Nat.dvd_refl _)
    · rw [heq, ← Nat.pow_add]
      exact Nat.pow_lt_pow_right (by omega) (by omega)

namespace Binary64

/-- The number nearest to `n / d` units, with the given sign. -/
def ofUnitRatio (negative : Bool) (n d : Nat) : Binary64 :=
  if h : roundUnits n d < unitsLimit then
    finite negative ⟨roundUnits n d, h, fits_roundUnits n d⟩
  else
    infinite negative

/-- The number nearest to the ratio `n / d`, with the given sign. -/
def ofRatio (negative : Bool) (n d : Nat) : Binary64 := ofUnitRatio negative (n * unitsPerOne) d

/-- The number nearest to an integer. -/
def ofInt (z : Int) : Binary64 := ofRatio (z < 0) z.natAbs 1

/-- The number nearest to a natural number. -/
def ofNat (n : Nat) : Binary64 := ofInt n

/-- The sum. A sum of zero is the negative zero only for two negative zeros; infinities of both
signs have no sum. -/
def add : Binary64 → Binary64 → Binary64
  | nan, _ => nan
  | _, nan => nan
  | infinite s, infinite t => if s = t then infinite s else nan
  | infinite s, finite _ _ => infinite s
  | finite _ _, infinite t => infinite t
  | finite s m, finite t n =>
    let sum := signedUnits s m.units + signedUnits t n.units
    if sum = 0 then signedZero (s && t) else ofUnitRatio (sum < 0) sum.natAbs 1

/-- The difference. -/
def sub (x y : Binary64) : Binary64 := x.add y.neg

/-- Half the number. -/
def half : Binary64 → Binary64
  | nan => nan
  | infinite negative => infinite negative
  | finite negative m => ofUnitRatio negative m.units 2

/-- The number with the decimal notation `digits * 10 ^ exponent`. Exponents far outside the
range are decided by the length of the digits alone. -/
def ofDecimal (negative : Bool) (digits : Nat) (exponent : Int) : Binary64 :=
  if digits = 0 then signedZero negative else
  let top := exponent + (Nat.toDigits 10 digits).length
  if 310 < top then infinite negative
  else if top < -330 then signedZero negative
  else if 0 ≤ exponent then ofRatio negative (digits * 10 ^ exponent.toNat) 1
  else ofRatio negative digits (10 ^ (-exponent).toNat)

/-- The number nearest to the square root of `n / d` units. Numbers of the format and the points
half way between them are whole numbers of half units, so the root is needed to half a unit, and a
root that is not exact is placed between two of them. -/
def ofUnitRoot (n d : Nat) : Binary64 :=
  let root := integerRoot (4 * n / d)
  if root * root * d = 4 * n then ofUnitRatio false root 2
  else ofUnitRatio false (2 * root + 1) 4

end Binary64

end Concord
