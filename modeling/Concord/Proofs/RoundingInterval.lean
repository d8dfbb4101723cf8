import Concord.Binary64.Shortest
import Concord.Proofs.WireNumbers

/-!
# The interval that rounds to a number

The numbers that round to a magnitude lie at most half a step of its grid away from it, and only a
quarter of a step below a power of two, where the grid below is finer. A ratio half a step away goes
to the even neighbour, so the ends belong to the interval of an even significand.

The main statement is `Magnitude.roundUnits_of_contains`: a ratio in the interval of a magnitude
rounds to it.
-/

namespace Concord

/-- A ratio at most a half away from an integer is rounded to it, if the integer is even or the
ratio is nearer. -/
theorem divHalfEven_eq {n d q : Nat} (hlow : 2 * (q * d) ≤ 2 * n + d)
    (hhigh : 2 * n ≤ 2 * (q * d) + d)
    (htie : q % 2 = 0 ∨ 2 * (q * d) < 2 * n + d ∧ 2 * n < 2 * (q * d) + d) (hd : 0 < d) :
    divHalfEven n d = q := by
  have hdiv : n / d * d + n % d = n := by rw [Nat.mul_comm]; exact Nat.div_add_mod n d
  have hmod : n % d < d := Nat.mod_lt n hd
  have hle : n / d ≤ q := by
    refine Nat.le_of_lt_succ (Nat.lt_of_mul_lt_mul_right (a := d) ?_)
    rw [Nat.succ_mul]
    omega
  have hge : q ≤ n / d + 1 := by
    refine Nat.le_of_lt_succ (Nat.lt_of_mul_lt_mul_right (a := d) ?_)
    rw [Nat.succ_mul, Nat.succ_mul]
    omega
  unfold divHalfEven
  rcases Nat.lt_or_eq_of_le hle with habove | rfl
  · have hq : q = n / d + 1 := Nat.le_antisymm hge habove
    subst hq
    rw [Nat.succ_mul (n / d)] at hlow hhigh htie
    rw [if_neg]
    omega
  · rw [if_pos]
    omega

namespace Magnitude

variable (m : Magnitude)

/-! ## The grid of a magnitude -/

/-- Units of few bits have a fine grid. -/
theorem gridShift_le_of_lt {shift : Nat} (h : m.units < 2 ^ (53 + shift)) :
    m.gridShift ≤ shift := by
  unfold gridShift
  by_cases hzero : m.units = 0
  · rw [hzero, Nat.log2_zero]
    omega
  · have := (Nat.log2_lt hzero).2 h
    omega

/-- The position of the last significant bit is a position at which the units end. -/
theorem pow_gridShift_dvd : 2 ^ m.gridShift ∣ m.units := by
  obtain ⟨-, shift, hdvd, hlt⟩ := m.fits
  exact Nat.dvd_trans (Nat.pow_dvd_pow 2 (m.gridShift_le_of_lt hlt)) hdvd

/-- The units are the significand, shifted to its position. -/
theorem units_eq : m.significand * 2 ^ m.gridShift = m.units := by
  rw [significand, Nat.shiftRight_eq_div_pow]
  exact Nat.div_mul_cancel m.pow_gridShift_dvd

/-- The significand has at most 53 bits. -/
theorem significand_lt : m.significand < 2 ^ 53 := by
  rw [significand, Nat.shiftRight_eq_div_pow]
  refine Nat.div_lt_of_lt_mul ?_
  rw [← Nat.pow_add]
  refine Nat.lt_of_lt_of_le Nat.lt_log2_self (Nat.pow_le_pow_right (by omega) ?_)
  unfold gridShift
  omega

/-- The significand has 53 bits unless the units are counted one by one. -/
theorem le_significand (h : 0 < m.gridShift) : 2 ^ 52 ≤ m.significand := by
  have hlog : m.units.log2 = 52 + m.gridShift := by
    unfold gridShift at h ⊢
    omega
  have hne : m.units ≠ 0 := by
    intro hzero
    rw [hzero, Nat.log2_zero] at hlog
    omega
  have hself := Nat.log2_self_le hne
  rw [hlog, Nat.pow_add, ← units_eq] at hself
  exact Nat.le_of_mul_le_mul_right hself (Nat.two_pow_pos _)

/-! ## The interval -/

/-- The quarters of the grid from a magnitude down to the end of its interval. -/
def quartersBelow : Nat := if m.significand = 2 ^ 52 ∧ 0 < m.gridShift then 1 else 2

/-- The interval reaches at least a quarter and at most a half of the grid down. -/
theorem quartersBelow_bounds : 1 ≤ m.quartersBelow ∧ m.quartersBelow ≤ 2 := by
  unfold quartersBelow
  split <;> omega

/-- The interval of a magnitude in quarters of its grid. -/
theorem interval_eq : m.interval =
    { low := (4 * m.significand - m.quartersBelow) * 2 ^ (m.gridShift - 1076)
      value := 4 * m.significand * 2 ^ (m.gridShift - 1076)
      high := (4 * m.significand + 2) * 2 ^ (m.gridShift - 1076)
      denominator := 2 ^ (1076 - m.gridShift)
      closed := m.significand % 2 == 0 } := rfl

/-- The scale and the denominator of an interval are its grid and four times the units of one,
without a common factor. -/
theorem exists_commonFactor : ∃ common, 0 < common ∧
    2 ^ m.gridShift = 2 ^ (m.gridShift - 1076) * common ∧
      4 * unitsPerOne = 2 ^ (1076 - m.gridShift) * common := by
  unfold unitsPerOne
  -- The exponents are named, so that no power of two is ever computed.
  generalize hone : 1074 = one
  generalize hquarter : 1076 = quarter
  refine ⟨2 ^ min m.gridShift quarter, Nat.two_pow_pos _, ?_, ?_⟩
  · rw [← Nat.pow_add]
    congr 1
    omega
  · rw [show 4 = 2 ^ 2 from rfl, ← Nat.pow_add, ← Nat.pow_add]
    congr 1
    omega

variable {m} {n d : Nat}

/-- The ends of the interval, in quarters of the grid counted in units. -/
theorem near_of_contains (h : m.interval.contains n d = true) :
    (4 * m.significand - m.quartersBelow) * (2 ^ m.gridShift * d) ≤ 4 * (n * unitsPerOne) ∧
      4 * (n * unitsPerOne) ≤ (4 * m.significand + 2) * (2 ^ m.gridShift * d) ∧
      (m.significand % 2 = 0 ∨
        (4 * m.significand - m.quartersBelow) * (2 ^ m.gridShift * d) < 4 * (n * unitsPerOne) ∧
          4 * (n * unitsPerOne) < (4 * m.significand + 2) * (2 ^ m.gridShift * d)) := by
  obtain ⟨common, hpos, hgrid, hunits⟩ := m.exists_commonFactor
  have hvalue : 4 * (n * unitsPerOne) = n * 2 ^ (1076 - m.gridShift) * common := by
    rw [Nat.mul_left_comm, hunits, Nat.mul_assoc]
  have hscale (a : Nat) :
      a * (2 ^ m.gridShift * d) = a * 2 ^ (m.gridShift - 1076) * d * common := by
    rw [hgrid, Nat.mul_right_comm, ← Nat.mul_assoc, ← Nat.mul_assoc]
  rw [hvalue, hscale, hscale]
  simp only [Nat.mul_le_mul_right_iff hpos, Nat.mul_lt_mul_right hpos]
  rw [interval_eq, RoundingInterval.contains] at h
  by_cases heven : m.significand % 2 = 0
  · rw [if_pos (beq_iff_eq.2 heven), Bool.and_eq_true, decide_eq_true_eq, decide_eq_true_eq] at h
    exact ⟨h.1, h.2, .inl heven⟩
  · rw [if_neg fun h => heven (beq_iff_eq.1 h), Bool.and_eq_true, decide_eq_true_eq,
      decide_eq_true_eq] at h
    exact ⟨Nat.le_of_lt h.1, Nat.le_of_lt h.2, .inr h⟩

/-- A ratio in the interval is below the number after all numbers with the grid of the magnitude. -/
theorem div_lt_of_contains (hd : 0 < d) (h : m.interval.contains n d = true) :
    n * unitsPerOne / d < 2 ^ (53 + m.gridShift) := by
  obtain ⟨-, hhigh, -⟩ := near_of_contains h
  have hlt := m.significand_lt
  have hgrid : 0 < 2 ^ m.gridShift * d := Nat.mul_pos (Nat.two_pow_pos _) hd
  refine Nat.div_lt_of_lt_mul ?_
  rw [Nat.pow_add, Nat.mul_left_comm, Nat.mul_comm d]
  have : (4 * m.significand + 2) * (2 ^ m.gridShift * d) <
      4 * 2 ^ 53 * (2 ^ m.gridShift * d) := Nat.mul_lt_mul_of_pos_right (by omega) hgrid
  omega

/-! ## Rounding -/

/-- A ratio that is at least the first number with the grid of the magnitude, or that has the
finest grid, rounds to the magnitude. -/
theorem roundUnits_of_grid (hd : 0 < d) (h : m.interval.contains n d = true)
    (hgrid : m.gridShift = 0 ∨ 2 ^ (52 + m.gridShift) ≤ n * unitsPerOne / d) :
    roundUnits (n * unitsPerOne) d = m.units := by
  have hshift : (n * unitsPerOne / d).log2 - 52 = m.gridShift := by
    have hbelow := div_lt_of_contains hd h
    by_cases hzero : n * unitsPerOne / d = 0
    · rcases hgrid with hgrid | hgrid
      · rw [hzero, Nat.log2_zero, hgrid]
      · exact absurd hzero (Nat.pos_iff_ne_zero.1 (Nat.lt_of_lt_of_le (Nat.two_pow_pos _) hgrid))
    · have hlt := (Nat.log2_lt hzero).2 hbelow
      rcases hgrid with hgrid | hgrid
      · omega
      · have hle := (Nat.le_log2 hzero).2 hgrid
        omega
  obtain ⟨hlow, hhigh, htie⟩ := near_of_contains h
  obtain ⟨-, htwo⟩ := m.quartersBelow_bounds
  have hlow' : (4 * m.significand - 2) * (2 ^ m.gridShift * d) ≤
      (4 * m.significand - m.quartersBelow) * (2 ^ m.gridShift * d) :=
    Nat.mul_le_mul_right _ (by omega)
  simp only [roundUnits]
  rw [hshift, ← m.units_eq, Nat.mul_comm d]
  have hstep : 0 < 2 ^ m.gridShift * d := Nat.mul_pos (Nat.two_pow_pos _) hd
  generalize 2 ^ m.gridShift * d = step at *
  rw [Nat.add_mul, Nat.mul_assoc] at hhigh htie
  rw [Nat.sub_mul, Nat.mul_assoc] at hlow'
  rw [divHalfEven_eq (q := m.significand) _ _ _ hstep] <;> omega

/-- Only the interval of a power of two reaches below the first number with its grid. -/
theorem significand_eq_of_below (h : m.interval.contains n d = true) (hpos : 0 < m.gridShift)
    (hbelow : n * unitsPerOne < 2 ^ 52 * (2 ^ m.gridShift * d)) : m.significand = 2 ^ 52 := by
  obtain ⟨hlow, -, -⟩ := near_of_contains h
  refine Nat.le_antisymm (Nat.le_of_not_lt fun habove => ?_) (m.le_significand hpos)
  have hle : 4 * 2 ^ 52 * (2 ^ m.gridShift * d) ≤
      (4 * m.significand - m.quartersBelow) * (2 ^ m.gridShift * d) :=
    Nat.mul_le_mul_right _ (by have := m.quartersBelow_bounds; omega)
  rw [Nat.mul_assoc] at hle
  omega

/-- A ratio below the first number with the grid of the magnitude, which is then a power of two,
rounds up to it on the finer grid. -/
theorem roundUnits_of_finerGrid (hd : 0 < d) (h : m.interval.contains n d = true)
    (hpos : 0 < m.gridShift) (hbelow : n * unitsPerOne / d < 2 ^ (52 + m.gridShift)) :
    roundUnits (n * unitsPerOne) d = m.units := by
  obtain ⟨hlow, -, -⟩ := near_of_contains h
  obtain ⟨shift, hsucc⟩ : ∃ shift, m.gridShift = shift + 1 := ⟨m.gridShift - 1, by omega⟩
  have hlt : n * unitsPerOne < 2 ^ 52 * (2 ^ m.gridShift * d) := by
    rw [← Nat.mul_assoc, ← Nat.pow_add]
    exact (Nat.div_lt_iff_lt_mul hd).1 hbelow
  have hsignificand := significand_eq_of_below h hpos hlt
  have hquarter : m.quartersBelow = 1 := if_pos ⟨hsignificand, hpos⟩
  have hgrid : 2 ^ m.gridShift * d = 2 * (2 ^ shift * d) := by
    rw [hsucc, Nat.pow_succ', Nat.mul_assoc]
  rw [hquarter, hsignificand, hgrid] at hlow
  rw [hgrid] at hlt
  have hshift : (n * unitsPerOne / d).log2 - 52 = shift := by
    have hle : 2 ^ (52 + shift) ≤ n * unitsPerOne / d := by
      refine (Nat.le_div_iff_mul_le hd).2 ?_
      rw [Nat.pow_add, Nat.mul_assoc]
      omega
    have hne := Nat.pos_iff_ne_zero.1 (Nat.lt_of_lt_of_le (Nat.two_pow_pos _) hle)
    have hlog := (Nat.le_log2 hne).2 hle
    have hlog' := (Nat.log2_lt hne).2 hbelow
    omega
  have hunits : m.units = 2 ^ 53 * 2 ^ shift := by
    rw [← m.units_eq, hsignificand, hsucc, ← Nat.pow_add, ← Nat.pow_add]
    congr 1
    omega
  simp only [roundUnits]
  rw [hshift, hunits, Nat.mul_comm d]
  have hstep : 0 < 2 ^ shift * d := Nat.mul_pos (Nat.two_pow_pos _) hd
  generalize 2 ^ shift * d = step at *
  have hround : divHalfEven (n * unitsPerOne) step = 2 ^ 53 := by
    have hlow : 2 * (2 ^ 53 * step) ≤ 2 * (n * unitsPerOne) + step := by omega
    have hhigh : 2 * (n * unitsPerOne) ≤ 2 * (2 ^ 53 * step) + step := by omega
    exact divHalfEven_eq hlow hhigh (.inl (by decide)) hstep
  rw [hround]

/-- A ratio in the interval of a magnitude rounds to it. -/
theorem roundUnits_of_contains (hd : 0 < d) (h : m.interval.contains n d = true) :
    roundUnits (n * unitsPerOne) d = m.units := by
  by_cases hfiner : 0 < m.gridShift ∧ n * unitsPerOne / d < 2 ^ (52 + m.gridShift)
  · exact roundUnits_of_finerGrid hd h hfiner.1 hfiner.2
  · exact roundUnits_of_grid hd h (by omega)

end Magnitude

end Concord
