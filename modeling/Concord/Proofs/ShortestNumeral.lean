import Concord.Proofs.RoundingInterval

/-!
# The shortest numeral rounds to its number

The numerals that end at one decimal place stand a step apart, and one of the two next to a number
lies in its interval when the step is smaller than the interval. Sixteen places behind the leading
digit it is, since `10 ^ 16` is above `2 ^ 53`, so a numeral of seventeen digits is always found.

The main statements are `Magnitude.contains_shortest`, that the shortest numeral lies in the
interval, and `Magnitude.ofDecimal_of_contains`, that a numeral in the interval is read as the
number.
-/

namespace Concord

/-! ## Powers of ten -/

/-- A power of ten with an exponent of either sign, as the ratio of two powers. -/
theorem powTen_eq (e : Int) :
    (if 0 ≤ e then (10 ^ e.toNat, 1) else (1, 10 ^ (-e).toNat)) =
      ((10 ^ e.toNat, 10 ^ (-e).toNat) : Nat × Nat) := by
  split
  · rw [show (-e).toNat = 0 by omega, Nat.pow_zero]
  · rw [show e.toNat = 0 by omega, Nat.pow_zero]

/-- A power of ten that a power of two surely reaches, as the logarithm of two says. -/
theorem powTen_le_powTwo {g a : Int} (hlog : 100000 * g ≤ 30103 * a) (hlow : -10000 ≤ a)
    (hhigh : a ≤ 10000) :
    10 ^ (g - 1).toNat * 2 ^ (1 - a).toNat ≤ 2 ^ (a - 1).toNat * 10 ^ (1 - g).toNat := by
  by_cases hpos : 1 ≤ a
  · rw [show (1 - a).toNat = 0 by omega, Nat.pow_zero, Nat.mul_one]
    by_cases hg : g ≤ 1
    · rw [show (g - 1).toNat = 0 by omega, Nat.pow_zero]
      exact Nat.mul_pos (Nat.two_pow_pos _) (Nat.pow_pos (by decide))
    · rw [show (1 - g).toNat = 0 by omega, Nat.pow_zero, Nat.mul_one]
      -- `10 ^ 59` is below `2 ^ 196`, and the ones taken off make up for what 59 / 196 is short of
      -- 0.30103.
      refine (Nat.pow_le_pow_iff_left (n := 196) (by decide)).1 ?_
      calc (10 ^ (g - 1).toNat) ^ 196
        _ = 10 ^ ((g - 1).toNat * 196) := (Nat.pow_mul ..).symm
        _ ≤ 10 ^ (59 * (a - 1).toNat) := Nat.pow_le_pow_right (by decide) (by omega)
        _ = (10 ^ 59) ^ (a - 1).toNat := Nat.pow_mul ..
        _ ≤ (2 ^ 196) ^ (a - 1).toNat := Nat.pow_le_pow_left (by decide) _
        _ = (2 ^ (a - 1).toNat) ^ 196 := Nat.pow_right_comm ..
  · rw [show (a - 1).toNat = 0 by omega, show (g - 1).toNat = 0 by omega, Nat.pow_zero,
      Nat.pow_zero, Nat.one_mul, Nat.one_mul]
    -- `2 ^ 93` is below `10 ^ 28`, and 28 / 93 is as near to 0.30103.
    refine (Nat.pow_le_pow_iff_left (n := 93) (by decide)).1 ?_
    calc (2 ^ (1 - a).toNat) ^ 93
      _ = (2 ^ 93) ^ (1 - a).toNat := Nat.pow_right_comm ..
      _ ≤ (10 ^ 28) ^ (1 - a).toNat := Nat.pow_le_pow_left (by decide) _
      _ = 10 ^ (28 * (1 - a).toNat) := (Nat.pow_mul ..).symm
      _ ≤ 10 ^ ((1 - g).toNat * 93) := Nat.pow_le_pow_right (by decide) (by omega)
      _ = (10 ^ (1 - g).toNat) ^ 93 := Nat.pow_mul ..

namespace Numeral

/-- The numerator of a numeral as a ratio. -/
def numerator (n : Numeral) : Nat := n.digits * 10 ^ n.exponent.toNat

/-- The denominator of a numeral as a ratio. -/
def denominator (n : Numeral) : Nat := 10 ^ (-n.exponent).toNat

/-- The denominator is positive. -/
theorem denominator_pos (n : Numeral) : 0 < n.denominator := Nat.pow_pos (by decide)

end Numeral

/-! ## Numerals in an interval -/

namespace RoundingInterval

variable {i : RoundingInterval} {e : Int}

/-- A ratio inside the interval rounds to the number. -/
theorem contains_of_lt {n d : Nat} (hlow : i.low * d < n * i.denominator)
    (hhigh : n * i.denominator < i.high * d) : i.contains n d = true := by
  unfold contains
  split <;> simp only [Bool.and_eq_true, decide_eq_true_eq]
  · exact ⟨Nat.le_of_lt hlow, Nat.le_of_lt hhigh⟩
  · exact ⟨hlow, hhigh⟩

/-- A nearest numeral ends at its position and rounds to the number. -/
theorem contains_of_nearestAt {numeral : Numeral} (h : i.nearestAt e = some numeral) :
    i.contains numeral.numerator numeral.denominator = true := by
  simp only [nearestAt, powTen_eq] at h
  split at h
  · rename_i hboth
    obtain ⟨hbelow, habove⟩ := Bool.and_eq_true_iff.1 hboth
    obtain rfl := Option.some.inj h
    split
    · exact hbelow
    · exact habove
  · split at h
    · obtain rfl := Option.some.inj h
      assumption
    · split at h
      · obtain rfl := Option.some.inj h
        assumption
      · cases h

/-- There is a nearest numeral if one of the two next to the value rounds to the number. -/
theorem exists_nearestAt_of_contains {below : Nat}
    (hbelow : below = i.value * 10 ^ (-e).toNat / (i.denominator * 10 ^ e.toNat))
    (h : i.contains (below * 10 ^ e.toNat) (10 ^ (-e).toNat) = true ∨
      i.contains ((below + 1) * 10 ^ e.toNat) (10 ^ (-e).toNat) = true) :
    ∃ numeral, i.nearestAt e = some numeral := by
  simp only [nearestAt, powTen_eq, ← hbelow]
  split
  · exact ⟨_, rfl⟩
  · split
    · exact ⟨_, rfl⟩
    · rename_i hno
      rw [if_pos (h.resolve_left hno)]
      exact ⟨_, rfl⟩

/-- There is a numeral that rounds to the number wherever the interval is wider than the step
between numerals. -/
theorem exists_nearestAt (hpos : 0 < i.denominator) (hlow : i.low ≤ i.value)
    (hhigh : i.value < i.high)
    (hwide : i.low * 10 ^ (-e).toNat + i.denominator * 10 ^ e.toNat < i.high * 10 ^ (-e).toNat) :
    ∃ numeral, i.nearestAt e = some numeral := by
  have hdown : 0 < 10 ^ (-e).toNat := Nat.pow_pos (by decide)
  have hstep : 0 < i.denominator * 10 ^ e.toNat := Nat.mul_pos hpos (Nat.pow_pos (by decide))
  have hlow' : i.low * 10 ^ (-e).toNat ≤ i.value * 10 ^ (-e).toNat := Nat.mul_le_mul_right _ hlow
  have hhigh' : i.value * 10 ^ (-e).toNat < i.high * 10 ^ (-e).toNat :=
    Nat.mul_lt_mul_of_pos_right hhigh hdown
  have hdiv := Nat.div_add_mod (i.value * 10 ^ (-e).toNat) (i.denominator * 10 ^ e.toNat)
  have hmod := Nat.mod_lt (i.value * 10 ^ (-e).toNat) hstep
  refine exists_nearestAt_of_contains rfl ?_
  generalize i.value * 10 ^ (-e).toNat / (i.denominator * 10 ^ e.toNat) = below at *
  have hscaled (n : Nat) :
      n * 10 ^ e.toNat * i.denominator = i.denominator * 10 ^ e.toNat * n := by
    rw [Nat.mul_right_comm, Nat.mul_assoc, Nat.mul_comm, Nat.mul_comm i.denominator]
  by_cases hinside : i.low * 10 ^ (-e).toNat < i.denominator * 10 ^ e.toNat * below
  · left
    refine contains_of_lt ?_ ?_ <;> rw [hscaled] <;> omega
  · right
    refine contains_of_lt ?_ ?_ <;> rw [hscaled, Nat.mul_succ] <;> omega

/-! ## The leading digit -/

/-- A power of ten is at most the value. -/
def Reaches (i : RoundingInterval) (e : Int) : Prop :=
  i.denominator * 10 ^ e.toNat ≤ i.value * 10 ^ (-e).toNat

instance (i : RoundingInterval) (e : Int) : Decidable (i.Reaches e) := Nat.decLe ..

/-- The comparison by the sign of the exponent. -/
theorem reaches_eq (i : RoundingInterval) (e : Int) :
    (if 0 ≤ e then decide (i.denominator * 10 ^ e.toNat ≤ i.value)
      else decide (i.denominator ≤ i.value * 10 ^ (-e).toNat)) = decide (i.Reaches e) := by
  split <;> refine decide_eq_decide.2 ?_ <;> unfold Reaches
  · rw [show (-e).toNat = 0 by omega, Nat.pow_zero, Nat.mul_one]
  · rw [show e.toNat = 0 by omega, Nat.pow_zero, Nat.mul_one]

/-- One less than the guess from the binary logarithms is reached. -/
theorem reaches_of_guess {guess : Int} (hvalue : i.value ≠ 0)
    (hguess : 100000 * guess ≤ 30103 * ((i.value.log2 : Int) - i.denominator.log2))
    (hlow : -10000 ≤ (i.value.log2 : Int) - i.denominator.log2)
    (hhigh : (i.value.log2 : Int) - i.denominator.log2 ≤ 10000) : i.Reaches (guess - 1) := by
  have hlog := powTen_le_powTwo hguess hlow hhigh
  have hself := Nat.log2_self_le hvalue
  have hlt : i.denominator < 2 ^ (i.denominator.log2 + 1) := Nat.lt_log2_self
  generalize ha : (i.value.log2 : Int) - i.denominator.log2 = a at *
  have hcancel : 2 ^ (a - 1).toNat * 2 ^ (i.denominator.log2 + 1) =
      2 ^ i.value.log2 * 2 ^ (1 - a).toNat := by
    rw [← Nat.pow_add, ← Nat.pow_add]
    congr 1
    omega
  unfold Reaches
  rw [show -(guess - 1) = 1 - guess by omega]
  refine (Nat.mul_le_mul_right_iff (Nat.two_pow_pos (1 - a).toNat)).1 ?_
  calc i.denominator * 10 ^ (guess - 1).toNat * 2 ^ (1 - a).toNat
    _ ≤ 2 ^ (i.denominator.log2 + 1) * (2 ^ (a - 1).toNat * 10 ^ (1 - guess).toNat) := by
      rw [Nat.mul_assoc]
      exact Nat.mul_le_mul (Nat.le_of_lt hlt) hlog
    _ = 2 ^ i.value.log2 * 10 ^ (1 - guess).toNat * 2 ^ (1 - a).toNat := by
      rw [Nat.mul_right_comm, ← hcancel, Nat.mul_left_comm, Nat.mul_assoc]
    _ ≤ i.value * 10 ^ (1 - guess).toNat * 2 ^ (1 - a).toNat :=
      Nat.mul_le_mul_right _ (Nat.mul_le_mul_right _ hself)

/-- The leading exponent is not above the value. -/
theorem reaches_leadingExponent (hvalue : i.value ≠ 0)
    (hlow : -10000 ≤ (i.value.log2 : Int) - i.denominator.log2)
    (hhigh : (i.value.log2 : Int) - i.denominator.log2 ≤ 10000) :
    i.Reaches i.leadingExponent := by
  simp only [leadingExponent, reaches_eq]
  split
  · exact of_decide_eq_true ‹_›
  · split
    · exact of_decide_eq_true ‹_›
    · exact reaches_of_guess hvalue (by omega) hlow hhigh

/-- Sixteen places after the leading digit the step between numerals is small. -/
theorem exists_nearestAt_leading (hreaches : i.Reaches e) (hpos : 0 < i.denominator)
    (hlow : i.low ≤ i.value) (hhigh : i.value < i.high)
    (hwide : i.value + i.low * 10 ^ 16 < i.high * 10 ^ 16) :
    ∃ numeral, i.nearestAt (e - 16) = some numeral := by
  refine exists_nearestAt hpos hlow hhigh ?_
  have hshift : 10 ^ (e - 16).toNat * 10 ^ (-e).toNat * 10 ^ 16 =
      10 ^ e.toNat * 10 ^ (-(e - 16)).toNat := by
    rw [← Nat.pow_add, ← Nat.pow_add, ← Nat.pow_add]
    congr 1
    omega
  have hscale : 0 < 10 ^ (-e).toNat * 10 ^ 16 :=
    Nat.mul_pos (Nat.pow_pos (by decide)) (by decide)
  have hdown : 0 < 10 ^ (-(e - 16)).toNat * 10 ^ (-e).toNat :=
    Nat.mul_pos (Nat.pow_pos (by decide)) (Nat.pow_pos (by decide))
  refine Nat.lt_of_mul_lt_mul_right (a := 10 ^ (-e).toNat * 10 ^ 16) ?_
  unfold Reaches at hreaches
  generalize 10 ^ e.toNat = up at *
  generalize 10 ^ (-e).toNat = down at *
  generalize 10 ^ (e - 16).toNat = up' at *
  generalize 10 ^ (-(e - 16)).toNat = down' at *
  generalize 10 ^ 16 = places at *
  calc (i.low * down' + i.denominator * up') * (down * places)
    _ = i.low * places * (down' * down) + i.denominator * up * down' := by
      rw [Nat.add_mul, Nat.mul_assoc i.denominator up', ← Nat.mul_assoc up', hshift]
      ac_rfl
    _ ≤ i.low * places * (down' * down) + i.value * down * down' :=
      Nat.add_le_add_left (Nat.mul_le_mul_right _ hreaches) _
    _ = (i.value + i.low * places) * (down' * down) := by
      rw [Nat.add_mul, Nat.add_comm, Nat.mul_assoc i.value, Nat.mul_comm down]
    _ < i.high * places * (down' * down) := Nat.mul_lt_mul_of_pos_right hwide hdown
    _ = i.high * down' * (down * places) := by ac_rfl

/-- The shortest numeral rounds to the number, when there is one of seventeen digits. -/
theorem contains_shortest {numeral : Numeral}
    (h : i.nearestAt (i.leadingExponent - 16) = some numeral) :
    i.contains i.shortest.numerator i.shortest.denominator = true := by
  obtain ⟨found, hfound⟩ : ∃ found, (List.range 17).findSome?
      (fun (k : Nat) => i.nearestAt (i.leadingExponent - k)) = some found := by
    refine Option.isSome_iff_exists.1 (List.findSome?_isSome_iff.2 ⟨16, ?_, ?_⟩)
    · exact List.mem_range.2 (by decide)
    · exact Option.isSome_iff_exists.2 ⟨numeral, h⟩
  obtain ⟨k, -, hk⟩ := List.exists_of_findSome?_eq_some hfound
  rw [shortest, hfound]
  exact contains_of_nearestAt hk

end RoundingInterval

/-! ## The numeral of a magnitude -/

namespace Magnitude

variable {m : Magnitude}

/-- The significand of a magnitude that is not zero is not zero. -/
theorem significand_ne_zero (h : m.units ≠ 0) : m.significand ≠ 0 := by
  intro hzero
  rw [← m.units_eq, hzero, Nat.zero_mul] at h
  exact h rfl

/-- The grid of a magnitude is below the largest one. -/
theorem gridShift_le (m : Magnitude) : m.gridShift ≤ 2045 := by
  have hlt : m.units < unitsLimit := m.fits.1
  rw [unitsLimit, show 2098 = 53 + 2045 from rfl] at hlt
  exact m.gridShift_le_of_lt hlt

/-- The shortest numeral of a magnitude that is not zero lies in its interval. -/
theorem contains_shortest (h : m.units ≠ 0) :
    m.interval.contains m.shortest.numerator m.shortest.denominator = true := by
  have hsignificand := significand_ne_zero h
  have hlt := m.significand_lt
  have hgrid := m.gridShift_le
  have hscale : 0 < 2 ^ (m.gridShift - 1076) := Nat.two_pow_pos _
  have hvalue : 4 * m.significand * 2 ^ (m.gridShift - 1076) ≠ 0 :=
    Nat.mul_ne_zero (by omega) (Nat.pos_iff_ne_zero.1 hscale)
  have hlog : (4 * m.significand * 2 ^ (m.gridShift - 1076)).log2 < 55 + (m.gridShift - 1076) := by
    refine (Nat.log2_lt hvalue).2 ?_
    rw [Nat.pow_add]
    exact Nat.mul_lt_mul_of_pos_right (by omega) hscale
  have hreaches : m.interval.Reaches m.interval.leadingExponent := by
    refine RoundingInterval.reaches_leadingExponent hvalue ?_ ?_ <;>
      · rw [interval_eq]
        dsimp only
        rw [Nat.log2_two_pow]
        omega
  have hlow : m.interval.low ≤ m.interval.value := Nat.mul_le_mul_right _ (Nat.sub_le ..)
  have hhigh : m.interval.value < m.interval.high :=
    Nat.mul_lt_mul_of_pos_right (by omega) hscale
  have hwide : m.interval.value + m.interval.low * 10 ^ 16 < m.interval.high * 10 ^ 16 := by
    rw [interval_eq]
    dsimp only
    rw [Nat.mul_right_comm _ _ (10 ^ 16), ← Nat.add_mul, Nat.mul_right_comm _ _ (10 ^ 16)]
    refine Nat.mul_lt_mul_of_pos_right ?_ hscale
    unfold quartersBelow
    split <;> omega
  obtain ⟨numeral, hnumeral⟩ := RoundingInterval.exists_nearestAt_leading hreaches
    (Nat.two_pow_pos _) hlow hhigh hwide
  rw [shortest, if_neg h]
  exact RoundingInterval.contains_shortest hnumeral

end Magnitude

/-! ## The size of a numeral -/

/-- A positive number lies between the powers of ten that its count of digits says. -/
theorem powTen_length_toDigits {n : Nat} (h : n ≠ 0) :
    10 ^ ((Nat.toDigits 10 n).length - 1) ≤ n ∧ n < 10 ^ (Nat.toDigits 10 n).length := by
  have hpos : 0 < (Nat.toDigits 10 n).length := Nat.length_toDigits_pos
  refine ⟨?_, (Nat.length_toDigits_le_iff (by decide) hpos).1 (Nat.le_refl _)⟩
  by_cases hone : (Nat.toDigits 10 n).length - 1 = 0
  · rw [hone, Nat.pow_zero]
    exact Nat.pos_iff_ne_zero.2 h
  · refine Nat.le_of_not_lt fun hlt => ?_
    have := (Nat.length_toDigits_le_iff (by decide) (Nat.pos_iff_ne_zero.2 hone)).2 hlt
    omega

namespace Magnitude

variable {m : Magnitude} {numeral : Numeral}

/-- The interval of a magnitude that is not zero is away from zero. -/
theorem two_le_quarters (hm : m.units ≠ 0) : 2 ≤ 4 * m.significand - m.quartersBelow := by
  have := m.quartersBelow_bounds
  have := significand_ne_zero hm
  omega

/-- A numeral in the interval of a magnitude has digits. -/
theorem digits_ne_zero (hm : m.units ≠ 0)
    (h : m.interval.contains numeral.numerator numeral.denominator = true) :
    numeral.digits ≠ 0 := by
  intro hzero
  obtain ⟨hlow, -, -⟩ := near_of_contains h
  rw [Numeral.numerator, hzero, Nat.zero_mul, Nat.zero_mul, Nat.mul_zero] at hlow
  refine Nat.not_lt.2 hlow (Nat.mul_pos ?_ (Nat.mul_pos (Nat.two_pow_pos _) ?_))
  · have := two_le_quarters hm
    omega
  · exact numeral.denominator_pos

/-- A numeral in the interval of a magnitude is at most `2 ^ 1024`. -/
theorem numerator_le (h : m.interval.contains numeral.numerator numeral.denominator = true) :
    numeral.numerator ≤ 2 ^ 1024 * numeral.denominator := by
  obtain ⟨-, hhigh, -⟩ := near_of_contains h
  have hlt := m.significand_lt
  have hgrid := m.gridShift_le
  have hlimit : 2 ^ 55 * 2 ^ 2045 = 2 ^ 1024 * (4 * unitsPerOne) := by decide +kernel
  generalize 2045 = top at hgrid hlimit
  refine (Nat.mul_le_mul_right_iff (Nat.mul_pos (by decide : 0 < 4) unitsPerOne_pos)).1 ?_
  calc numeral.numerator * (4 * unitsPerOne)
    _ = 4 * (numeral.numerator * unitsPerOne) := Nat.mul_left_comm ..
    _ ≤ (4 * m.significand + 2) * (2 ^ m.gridShift * numeral.denominator) := hhigh
    _ ≤ 2 ^ 55 * (2 ^ top * numeral.denominator) :=
      Nat.mul_le_mul (by omega) (Nat.mul_le_mul_right _ (Nat.pow_le_pow_right (by decide) hgrid))
    _ = 2 ^ 1024 * numeral.denominator * (4 * unitsPerOne) := by
      rw [← Nat.mul_assoc, hlimit, Nat.mul_right_comm]

/-- A numeral in the interval of a magnitude that is not zero is at least half a unit. -/
theorem denominator_le (hm : m.units ≠ 0)
    (h : m.interval.contains numeral.numerator numeral.denominator = true) :
    numeral.denominator ≤ 2 ^ 1075 * numeral.numerator := by
  obtain ⟨hlow, -, -⟩ := near_of_contains h
  have hlimit : 4 * unitsPerOne = 2 * 2 ^ 1075 := by decide +kernel
  refine (Nat.mul_le_mul_left_iff (by decide : 0 < 2)).1 ?_
  calc 2 * numeral.denominator
    _ ≤ (4 * m.significand - m.quartersBelow) * (2 ^ m.gridShift * numeral.denominator) :=
      Nat.mul_le_mul (two_le_quarters hm) (Nat.le_mul_of_pos_left _ (Nat.two_pow_pos _))
    _ ≤ 4 * (numeral.numerator * unitsPerOne) := hlow
    _ = 2 * (2 ^ 1075 * numeral.numerator) := by
      rw [Nat.mul_left_comm, hlimit, Nat.mul_comm, Nat.mul_assoc]

/-- A numeral in the interval of a magnitude is below `10 ^ 310`. -/
theorem top_le (hm : m.units ≠ 0)
    (h : m.interval.contains numeral.numerator numeral.denominator = true) :
    numeral.exponent + (Nat.toDigits 10 numeral.digits).length ≤ 310 := by
  refine Int.not_lt.1 fun htop => ?_
  have hpos : 0 < (Nat.toDigits 10 numeral.digits).length := Nat.length_toDigits_pos
  have hlimit : 2 ^ 1024 < 10 ^ 310 := by decide +kernel
  generalize hbound : 310 = limit at hlimit
  refine Nat.not_lt.2 (numerator_le h) ?_
  calc 2 ^ 1024 * numeral.denominator
    _ < 10 ^ limit * numeral.denominator :=
      Nat.mul_lt_mul_of_pos_right hlimit numeral.denominator_pos
    _ = 10 ^ (limit + (-numeral.exponent).toNat) := (Nat.pow_add ..).symm
    _ ≤ 10 ^ ((Nat.toDigits 10 numeral.digits).length - 1 + numeral.exponent.toNat) :=
      Nat.pow_le_pow_right (by decide) (by omega)
    _ ≤ numeral.numerator := by
      rw [Nat.pow_add]
      exact Nat.mul_le_mul_right _ (powTen_length_toDigits (digits_ne_zero hm h)).1

/-- A numeral in the interval of a magnitude that is not zero is at least `10 ^ -331`. -/
theorem le_top (hm : m.units ≠ 0)
    (h : m.interval.contains numeral.numerator numeral.denominator = true) :
    -330 ≤ numeral.exponent + (Nat.toDigits 10 numeral.digits).length := by
  refine Int.not_lt.1 fun htop => ?_
  have hdigits := digits_ne_zero hm h
  have hlimit : 2 ^ 1075 ≤ 10 ^ 330 := by decide +kernel
  generalize hbound : 330 = limit at hlimit
  refine Nat.not_lt.2 (denominator_le hm h) ?_
  calc 2 ^ 1075 * numeral.numerator
    _ ≤ 10 ^ limit * numeral.numerator := Nat.mul_le_mul_right _ hlimit
    _ < 10 ^ limit * 10 ^ ((Nat.toDigits 10 numeral.digits).length + numeral.exponent.toNat) := by
      refine Nat.mul_lt_mul_of_pos_left ?_ (Nat.pow_pos (by decide))
      rw [Nat.pow_add]
      exact Nat.mul_lt_mul_of_pos_right (powTen_length_toDigits hdigits).2
        (Nat.pow_pos (by decide))
    _ = 10 ^ (limit + ((Nat.toDigits 10 numeral.digits).length + numeral.exponent.toNat)) :=
      (Nat.pow_add ..).symm
    _ ≤ numeral.denominator := Nat.pow_le_pow_right (by decide) (by omega)

/-- A numeral in the interval of a magnitude is read as the magnitude. -/
theorem ofDecimal_of_contains (negative : Bool) (hm : m.units ≠ 0)
    (h : m.interval.contains numeral.numerator numeral.denominator = true) :
    Binary64.ofDecimal negative numeral.digits numeral.exponent = .finite negative m := by
  have hround := roundUnits_of_contains numeral.denominator_pos h
  have htop := top_le hm h
  have hbottom := le_top hm h
  have hratio : Binary64.ofDecimal negative numeral.digits numeral.exponent =
      Binary64.ofRatio negative numeral.numerator numeral.denominator := by
    simp only [Binary64.ofDecimal, Numeral.numerator, Numeral.denominator]
    rw [if_neg (digits_ne_zero hm h), if_neg (by omega), if_neg (by omega)]
    split
    · rw [show (-numeral.exponent).toNat = 0 by omega, Nat.pow_zero]
    · rw [show numeral.exponent.toNat = 0 by omega, Nat.pow_zero, Nat.mul_one]
  rw [hratio, Binary64.ofRatio, Binary64.ofUnitRatio, dif_pos (hround ▸ m.fits.1)]
  congr

end Magnitude

end Concord
