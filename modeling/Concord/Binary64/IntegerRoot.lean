import Concord.Power

/-!
# The integer square root

`integerRoot n` is the largest integer whose square is at most `n` (`integerRoot_mul_self_le` and
`lt_succ_integerRoot_mul_self`). It takes two binary digits of `n` for each digit of the root.
-/

namespace Concord

/-- The integer root of a number below `4 ^ digits`, one digit of the root at a time. -/
def rootDigits : Nat → Nat → Nat
  | 0, _ => 0
  | digits + 1, n =>
    let root := 2 * rootDigits digits (n / 4)
    if (root + 1) * (root + 1) ≤ n then root + 1 else root

/-- The largest integer whose square is at most `n`. -/
def integerRoot (n : Nat) : Nat := rootDigits (n.log2 / 2 + 1) n

/-- The digits found so far form a root of the number from above and below. -/
theorem rootDigits_bounds {digits n : Nat} (h : n < 4 ^ digits) :
    rootDigits digits n * rootDigits digits n ≤ n ∧
      n < (rootDigits digits n + 1) * (rootDigits digits n + 1) := by
  induction digits generalizing n with
  | zero => simp [rootDigits]; simpa using h
  | succ digits ih =>
    obtain ⟨hlow, hhigh⟩ := ih (n := n / 4) (by rw [Nat.pow_succ] at h; omega)
    simp only [rootDigits]
    generalize rootDigits digits (n / 4) = r at hlow hhigh
    have hsquare : 2 * r * (2 * r) = 4 * (r * r) := by grind
    have hnext : (2 * r + 1 + 1) * (2 * r + 1 + 1) = 4 * ((r + 1) * (r + 1)) := by grind
    split
    · exact ⟨by assumption, by omega⟩
    · exact ⟨by omega, by omega⟩

/-- The digits of `n` are enough for its root. -/
theorem lt_four_pow_log2 (n : Nat) : n < 4 ^ (n.log2 / 2 + 1) := by
  have hlog : n < 2 ^ (n.log2 + 1) := Nat.lt_log2_self
  have hle : 2 ^ (n.log2 + 1) ≤ 4 ^ (n.log2 / 2 + 1) := by
    rw [show (4 : Nat) = 2 ^ 2 from rfl, ← Nat.pow_mul]
    exact Nat.pow_le_pow_right (by omega) (by omega)
  omega

/-- The root's square is at most the number. -/
theorem integerRoot_mul_self_le (n : Nat) : integerRoot n * integerRoot n ≤ n :=
  (rootDigits_bounds (lt_four_pow_log2 n)).1

/-- The square of the next integer is larger than the number. -/
theorem lt_succ_integerRoot_mul_self (n : Nat) :
    n < (integerRoot n + 1) * (integerRoot n + 1) :=
  (rootDigits_bounds (lt_four_pow_log2 n)).2

end Concord
