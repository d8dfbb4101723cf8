import Concord.Packet

/-!
# Numbers on the wire

A time on the wire has 32 bits in front of the binary point and 32 behind it, more than a binary64
number can hold, so a time that is read is rounded. Below `roundsUp` it stays below `2 ^ 32`, and it
can be written again. From there on it is rounded to `2 ^ 32` itself, for which the field has no
room.

The main statements are `fixedPoint_of_within`, that a number that is in range has a fixed-point
form that fits, and the two halves about times that are read, `withPlaces_within` and
`fixedPoint_of_roundsUp`.
-/

namespace Concord

/-- The first time on the wire that is rounded to `2 ^ 32`: half a step of the format below. -/
def roundsUp : Nat := 2 ^ 64 - 2 ^ 10

/-! ## Rounding -/

/-- A common factor does not change a rounded quotient. -/
theorem divHalfEven_mul_mul_right (n d : Nat) {k : Nat} (hk : 0 < k) :
    divHalfEven (n * k) (d * k) = divHalfEven n d := by
  have hlt : 2 * (n % d * k) < d * k ↔ 2 * (n % d) < d := by
    rw [← Nat.mul_assoc, Nat.mul_lt_mul_right hk]
  have heq : 2 * (n % d * k) = d * k ↔ 2 * (n % d) = d := by
    rw [← Nat.mul_assoc, Nat.mul_left_inj (Nat.pos_iff_ne_zero.1 hk)]
  unfold divHalfEven
  simp only [Nat.mul_mod_mul_right, Nat.mul_div_mul_right _ _ hk, hlt, heq]

/-- A rounded ratio is at most the next power of two. -/
theorem roundUnits_le (n d : Nat) : roundUnits n d ≤ 2 ^ 53 * 2 ^ ((n / d).log2 - 52) :=
  Nat.mul_le_mul_right _ (significand_le n d)

variable {n k : Nat}

/-- A time in the lower half of its range is not rounded above that half. -/
theorem roundUnits_of_small (hn : n < 2 ^ 63) :
    roundUnits (n * 2 ^ (k + 32)) (2 ^ 32) < 2 ^ 32 * 2 ^ (k + 32) := by
  have hquotient : n * 2 ^ (k + 32) / 2 ^ 32 = n * 2 ^ k := by
    rw [Nat.pow_add, ← Nat.mul_assoc, Nat.mul_div_cancel _ (Nat.two_pow_pos 32)]
  have hbound := roundUnits_le (n * 2 ^ (k + 32)) (2 ^ 32)
  rw [hquotient] at hbound
  refine Nat.lt_of_le_of_lt hbound ?_
  rw [← Nat.pow_add, ← Nat.pow_add]
  refine Nat.pow_lt_pow_right (by omega) ?_
  by_cases hzero : n * 2 ^ k = 0
  · rw [hzero, Nat.log2_zero]
    omega
  · have hlt : n * 2 ^ k < 2 ^ (63 + k) := by
      rw [Nat.pow_add]
      exact Nat.mul_lt_mul_of_pos_right hn (Nat.two_pow_pos k)
    have := (Nat.log2_lt hzero).2 hlt
    omega

/-- A time in the upper half of its range is rounded to 53 bits. -/
theorem roundUnits_of_large (hlow : 2 ^ 63 ≤ n) (hhigh : n < 2 ^ 64) :
    roundUnits (n * 2 ^ (k + 32)) (2 ^ 32) = divHalfEven n (2 ^ 11) * 2 ^ (k + 11) := by
  have hquotient : n * 2 ^ (k + 32) / 2 ^ 32 = n * 2 ^ k := by
    rw [Nat.pow_add, ← Nat.mul_assoc, Nat.mul_div_cancel _ (Nat.two_pow_pos 32)]
  have hpos : 0 < 2 ^ k := Nat.two_pow_pos k
  have hlog : (n * 2 ^ k).log2 = 63 + k := by
    refine (Nat.log2_eq_iff (Nat.pos_iff_ne_zero.1 (Nat.mul_pos (by omega) hpos))).2 ⟨?_, ?_⟩
    · rw [Nat.pow_add]
      exact Nat.mul_le_mul_right _ hlow
    · rw [show 63 + k + 1 = 64 + k by omega, Nat.pow_add]
      exact Nat.mul_lt_mul_of_pos_right hhigh hpos
  have hstep : 2 ^ 32 * 2 ^ (k + 11) = 2 ^ 11 * 2 ^ (k + 32) := by
    rw [← Nat.pow_add, ← Nat.pow_add]
    congr 1
    omega
  simp only [roundUnits, hquotient, hlog, show 63 + k - 52 = k + 11 by omega]
  rw [hstep, divHalfEven_mul_mul_right _ _ (Nat.two_pow_pos _)]

/-- A significand of 53 bits above the places that rounding drops is a time of 32 bits. -/
theorem pow_places (k : Nat) : 2 ^ 53 * 2 ^ (k + 11) = 2 ^ 32 * 2 ^ (k + 32) := by
  rw [← Nat.pow_add, ← Nat.pow_add]
  congr 1
  omega

/-- Rounding to 53 bits of 64 reaches the next power of two only from half a step below on. -/
theorem divHalfEven_of_lt (hhigh : n < roundsUp) : divHalfEven n (2 ^ 11) < 2 ^ 53 := by
  unfold roundsUp at hhigh
  unfold divHalfEven
  split <;> omega

/-- From half a step below the next power of two on, rounding reaches it. -/
theorem divHalfEven_of_roundsUp (hlow : roundsUp ≤ n) (hhigh : n < 2 ^ 64) :
    divHalfEven n (2 ^ 11) = 2 ^ 53 := by
  unfold roundsUp at hlow
  unfold divHalfEven
  rw [if_neg (by omega)]
  omega

/-! ## Numbers in a range -/

namespace Binary64

/-- The number is finite, not negative, and below the given whole number. -/
def Within (x : Binary64) (limit : Nat) : Prop :=
  ∃ units, x.units? = some units ∧ 0 ≤ units ∧ units < (limit * unitsPerOne : Nat)

instance (x : Binary64) (limit : Nat) : Decidable (x.Within limit) :=
  decidable_of_iff
    (x.units?.any (fun units : Int => 0 ≤ units ∧ units < (limit * unitsPerOne : Nat)) = true)
    (by
      rw [Within, Option.any_eq_true]
      simp only [decide_eq_true_eq])

end Binary64

namespace Packet

/-- A number in a range has a fixed-point form, which has room where the range has. -/
theorem fixedPoint_of_within {x : Binary64} {limit : Nat} (bits : Nat) (h : x.Within limit) :
    ∃ value : Nat, fixedPoint bits x = .ok value ∧ value < limit * 2 ^ bits := by
  obtain ⟨units, hunits, hpos, hlt⟩ := h
  cases x with
  | nan | infinite => cases hunits
  | finite negative m =>
    obtain rfl := Option.some.inj hunits
    cases negative with
    | true =>
      -- Only the negative zero is in range.
      have hzero : m.units = 0 := by
        rw [Binary64.signedUnits, if_pos rfl] at hpos
        omega
      refine ⟨0, ?_, ?_⟩
      · simp [fixedPoint, Magnitude.whole, Magnitude.places, hzero, Binary64.signedUnits]
      · cases limit with
        | zero =>
          rw [Nat.zero_mul] at hlt
          exact absurd hlt (Int.not_lt.2 hpos)
        | succ limit => exact Nat.mul_pos (Nat.succ_pos limit) (Nat.two_pow_pos bits)
    | false =>
      have hwhole : m.whole < limit := by
        refine Nat.div_lt_of_lt_mul ?_
        rw [Nat.mul_comm]
        exact Int.ofNat_lt.1 hlt
      have hplaces : m.places bits < 2 ^ bits := by
        refine Nat.div_lt_of_lt_mul ?_
        exact Nat.mul_lt_mul_of_pos_right (Nat.mod_lt _ unitsPerOne_pos) (Nat.two_pow_pos bits)
      refine ⟨m.whole * 2 ^ bits + m.places bits, ?_, ?_⟩
      · simp [fixedPoint, Binary64.signedUnits]
      · calc m.whole * 2 ^ bits + m.places bits
          _ < (m.whole + 1) * 2 ^ bits := by rw [Nat.succ_mul]; omega
          _ ≤ limit * 2 ^ bits := Nat.mul_le_mul_right _ hwhole

/-- The units of one are finer than the places on the wire, and leave room above its times. -/
theorem exists_unitsPerOne_eq :
    ∃ k, unitsPerOne = 2 ^ (k + 32) ∧ 2 ^ 32 * 2 ^ (k + 32) < unitsLimit := by
  unfold unitsPerOne unitsLimit
  generalize hone : 1074 = one
  generalize hlimit : 2098 = limit
  refine ⟨one - 32, ?_, ?_⟩
  · rw [Nat.sub_add_cancel (by omega)]
  · rw [← Nat.pow_add]
    exact Nat.pow_lt_pow_right (by omega) (by omega)

/-- A time that is read and rounded to at most `2 ^ 32` is finite. -/
theorem withPlaces_eq (hround : roundUnits (n * unitsPerOne) (2 ^ 32) ≤ 2 ^ 32 * unitsPerOne) :
    ∃ fits, withPlaces 32 n =
      .finite false ⟨roundUnits (n * unitsPerOne) (2 ^ 32), fits⟩ := by
  have hlimit : roundUnits (n * unitsPerOne) (2 ^ 32) < unitsLimit := by
    obtain ⟨k, hunits, hroom⟩ := exists_unitsPerOne_eq
    rw [← hunits] at hroom
    exact Nat.lt_of_le_of_lt hround hroom
  refine ⟨⟨hlimit, fits_roundUnits ..⟩, ?_⟩
  rw [withPlaces, Binary64.ofRatio, Binary64.ofUnitRatio, dif_pos hlimit]

/-- A time below `roundsUp` is still in range when it is read. -/
theorem withPlaces_within (h : n < roundsUp) : (withPlaces 32 n).Within (2 ^ 32) := by
  have hround : roundUnits (n * unitsPerOne) (2 ^ 32) < 2 ^ 32 * unitsPerOne := by
    obtain ⟨k, hunits, -⟩ := exists_unitsPerOne_eq
    rw [hunits]
    by_cases hsmall : n < 2 ^ 63
    · exact roundUnits_of_small hsmall
    · have hhigh : n < 2 ^ 64 := Nat.lt_of_lt_of_le h (Nat.sub_le ..)
      rw [roundUnits_of_large (Nat.not_lt.1 hsmall) hhigh]
      calc divHalfEven n (2 ^ 11) * 2 ^ (k + 11)
        _ < 2 ^ 53 * 2 ^ (k + 11) :=
          Nat.mul_lt_mul_of_pos_right (divHalfEven_of_lt h) (Nat.two_pow_pos _)
        _ = 2 ^ 32 * 2 ^ (k + 32) := pow_places k
  obtain ⟨fits, heq⟩ := withPlaces_eq (Nat.le_of_lt hround)
  rw [heq]
  exact ⟨_, rfl, Int.natCast_nonneg _, Int.ofNat_lt.2 hround⟩

/-- A time from `roundsUp` on is read as `2 ^ 32`. -/
theorem fixedPoint_of_roundsUp (hlow : roundsUp ≤ n) (hhigh : n < 2 ^ 64) :
    fixedPoint 32 (withPlaces 32 n) = .ok (2 ^ 64) := by
  have hround : roundUnits (n * unitsPerOne) (2 ^ 32) = 2 ^ 32 * unitsPerOne := by
    have hlarge : 2 ^ 63 ≤ n := by
      unfold roundsUp at hlow
      omega
    obtain ⟨k, hunits, -⟩ := exists_unitsPerOne_eq
    rw [hunits, roundUnits_of_large hlarge hhigh, divHalfEven_of_roundsUp hlow hhigh, pow_places]
  obtain ⟨fits, heq⟩ := withPlaces_eq (Nat.le_of_eq hround)
  rw [heq]
  have hwhole : Magnitude.whole ⟨roundUnits (n * unitsPerOne) (2 ^ 32), fits⟩ = 2 ^ 32 := by
    show roundUnits (n * unitsPerOne) (2 ^ 32) / unitsPerOne = 2 ^ 32
    rw [hround, Nat.mul_div_cancel _ unitsPerOne_pos]
  have hplaces : Magnitude.places 32 ⟨roundUnits (n * unitsPerOne) (2 ^ 32), fits⟩ = 0 := by
    show roundUnits (n * unitsPerOne) (2 ^ 32) % unitsPerOne * 2 ^ 32 / unitsPerOne = 0
    rw [hround, Nat.mul_mod_left, Nat.zero_mul, Nat.zero_div]
  rw [fixedPoint, hwhole, hplaces]
  rfl

end Packet

end Concord
