import Concord.Proofs.Runs

/-!
# The median and the majority

The references of a round are sorted by offset, so every reference in front of the median has an
offset that is not larger, and every one behind it an offset that is not smaller. Hence the offsets
of more than half of the references cannot all lie on one side of the median: an interval that holds
the offsets of a majority holds the median, whatever the others are.

The main statements are `sortByOffset_pairwise`, that the references are in order, and
`majority_decides`: in the first round and in every later one the offset that is handed to the clock
lies between any bounds between which a majority lies.
-/

namespace Concord

namespace Binary64

/-- A number that is smaller or equal has a position that is not later. -/
theorem rank_le_of_le {x y : Binary64} (h : x.le y = true) : x.rank ≤ y.rank := by
  simp only [le, Bool.and_eq_true, decide_eq_true_eq] at h
  exact h.2

/-- Of numbers, smaller or equal means a position that is not later. -/
theorem le_iff_rank {x y : Binary64} (hx : x.isNaN = false) (hy : y.isNaN = false) :
    x.le y = true ↔ x.rank ≤ y.rank := by
  simp [le, hx, hy]

/-- Numbers that can be compared are no not-a-number. -/
theorem isNaN_of_le {x y : Binary64} (h : x.le y = true) : x.isNaN = false ∧ y.isNaN = false := by
  simp only [le, Bool.and_eq_true, Bool.not_eq_true'] at h
  exact h.1

end Binary64

namespace Quorum

/-! ## The order of the references -/

/-- Inserting keeps the order of offsets. -/
theorem insertByOffset_pairwise (r : Reference) {sorted : List Reference}
    (h : sorted.Pairwise fun s t => s.offset.rank ≤ t.offset.rank) :
    (insertByOffset r sorted).Pairwise fun s t => s.offset.rank ≤ t.offset.rank := by
  induction sorted with
  | nil => exact List.pairwise_singleton ..
  | cons s rest ih =>
    obtain ⟨hs, hrest⟩ := List.pairwise_cons.1 h
    by_cases hlt : s.offset.rank < r.offset.rank
    · rw [insertByOffset, if_pos hlt]
      refine List.pairwise_cons.2 ⟨?_, ih hrest⟩
      intro t ht
      rcases List.mem_cons.1 ((insertByOffset_perm r rest).mem_iff.1 ht) with rfl | ht
      · omega
      · exact hs t ht
    · rw [insertByOffset, if_neg hlt]
      refine List.pairwise_cons.2 ⟨?_, h⟩
      intro t ht
      rcases List.mem_cons.1 ht with rfl | ht
      · omega
      · have := hs t ht
        omega

/-- The references are sorted by offset. -/
theorem sortByOffset_pairwise (references : List Reference) :
    (sortByOffset references).Pairwise fun s t => s.offset.rank ≤ t.offset.rank := by
  induction references with
  | nil => exact List.Pairwise.nil
  | cons r rest ih => exact insertByOffset_pairwise r ih

/-- There are as many references after sorting. -/
theorem length_sortByOffset (references : List Reference) :
    (sortByOffset references).length = references.length := (sortByOffset_perm references).length_eq

/-- A reference that stands further in front has an offset that is not larger. -/
theorem rank_le_of_index {references : List Reference} {i j : Nat} {r s : Reference} (h : i ≤ j)
    (hr : (sortByOffset references)[i]? = some r) (hs : (sortByOffset references)[j]? = some s) :
    r.offset.rank ≤ s.offset.rank := by
  obtain ⟨hi, rfl⟩ := List.getElem?_eq_some_iff.1 hr
  obtain ⟨hj, rfl⟩ := List.getElem?_eq_some_iff.1 hs
  rcases Nat.lt_or_eq_of_le h with hlt | rfl
  · exact List.pairwise_iff_getElem.1 (sortByOffset_pairwise references) i j hi hj hlt
  · exact Int.le_refl _

/-! ## Majorities -/

/-- The number of references whose offsets lie between two bounds. -/
def countWithin (lo hi : Binary64) (references : List Reference) : Nat :=
  references.countP fun r => lo.le r.offset && r.offset.le hi

/-- If none of the first elements counts, only the others can. -/
theorem countP_le_of_take {α : Type} {p : α → Bool} {l : List α} {k : Nat}
    (h : ∀ i x, i < k → l[i]? = some x → p x = false) : l.countP p ≤ l.length - k := by
  have hfirst : (l.take k).countP p = 0 := by
    rw [List.countP_eq_zero]
    intro x hx
    obtain ⟨i, hi⟩ := List.mem_iff_getElem?.1 hx
    rw [List.getElem?_take] at hi
    split at hi
    · rename_i hlt
      rw [h i x hlt hi]
      exact Bool.false_ne_true
    · cases hi
  calc l.countP p
    _ = (l.take k).countP p + (l.drop k).countP p := by
      rw [← List.countP_append, List.take_append_drop]
    _ = (l.drop k).countP p := by rw [hfirst, Nat.zero_add]
    _ ≤ (l.drop k).length := List.countP_le_length
    _ = l.length - k := List.length_drop

/-- If none of the elements behind the first ones counts, only those can. -/
theorem countP_le_of_drop {α : Type} {p : α → Bool} {l : List α} {k : Nat}
    (h : ∀ i x, k ≤ i → l[i]? = some x → p x = false) : l.countP p ≤ k := by
  have hlast : (l.drop k).countP p = 0 := by
    rw [List.countP_eq_zero]
    intro x hx
    obtain ⟨i, hi⟩ := List.mem_iff_getElem?.1 hx
    rw [List.getElem?_drop] at hi
    rw [h (k + i) x (Nat.le_add_right k i) hi]
    exact Bool.false_ne_true
  calc l.countP p
    _ = (l.take k).countP p + (l.drop k).countP p := by
      rw [← List.countP_append, List.take_append_drop]
    _ = (l.take k).countP p := by rw [hlast, Nat.add_zero]
    _ ≤ (l.take k).length := List.countP_le_length
    _ ≤ k := List.length_take_le ..

variable {references : List Reference} {lo hi : Binary64} {r : Reference}

/-- The reference in the middle is not below an interval that holds a majority. -/
theorem lower_of_majority (hr : (sortByOffset references)[references.length / 2]? = some r)
    (hmajority : references.length < 2 * countWithin lo hi references) :
    lo.rank ≤ r.offset.rank := by
  refine Int.not_lt.1 fun hlt => ?_
  -- Otherwise the first half and the reference in the middle itself are below the interval.
  have hbelow : ∀ i s, i < references.length / 2 + 1 → (sortByOffset references)[i]? = some s →
      (lo.le s.offset && s.offset.le hi) = false := by
    intro i s hi' hs
    have hle := rank_le_of_index (Nat.le_of_lt_succ hi') hs hr
    rw [Bool.and_eq_false_iff]
    refine .inl (Bool.eq_false_iff.2 fun hlo => ?_)
    have := Binary64.rank_le_of_le hlo
    omega
  have hcount := countP_le_of_take hbelow
  rw [(sortByOffset_perm references).countP_eq, length_sortByOffset] at hcount
  unfold countWithin at hmajority
  omega

/-- The reference in the middle is not above an interval that holds a majority. -/
theorem upper_of_majority (hr : (sortByOffset references)[references.length / 2]? = some r)
    (hmajority : references.length < 2 * countWithin lo hi references) :
    r.offset.rank ≤ hi.rank := by
  refine Int.not_lt.1 fun hlt => ?_
  -- Otherwise the reference in the middle and all behind it are above the interval.
  have habove : ∀ i s, references.length / 2 ≤ i → (sortByOffset references)[i]? = some s →
      (lo.le s.offset && s.offset.le hi) = false := by
    intro i s hi' hs
    have hle := rank_le_of_index hi' hr hs
    rw [Bool.and_eq_false_iff]
    refine .inr (Bool.eq_false_iff.2 fun hhi => ?_)
    have := Binary64.rank_le_of_le hhi
    omega
  have hcount := countP_le_of_drop habove
  rw [(sortByOffset_perm references).countP_eq] at hcount
  unfold countWithin at hmajority
  omega

/-- As many references as are required are not too few. -/
theorem tooFew_of_le {required : Number} (h : required.le (.int references.length) = true) :
    tooFew references required = false := Number.lt_eq_false_of_le h

/-- An interval that holds a majority holds the median. -/
theorem median_of_majority {required : Number} (hbounds : lo.le hi = true)
    (hnumbers : ∀ s ∈ references, s.offset.isNaN = false)
    (hrequired : required.le (.int references.length) = true)
    (hmajority : references.length < 2 * countWithin lo hi references) :
    ∃ r, median references required = some r ∧ lo.le r.offset = true ∧ r.offset.le hi = true := by
  have hlength := length_sortByOffset references
  have hcount : countWithin lo hi references ≤ references.length := List.countP_le_length
  have hmiddle : references.length / 2 < (sortByOffset references).length := by omega
  have hr := List.getElem?_eq_getElem hmiddle
  generalize (sortByOffset references)[references.length / 2] = r at hr
  obtain ⟨hlo, hhi⟩ := Binary64.isNaN_of_le hbounds
  have hnumber : r.offset.isNaN = false :=
    hnumbers r ((sortByOffset_perm references).mem_iff.1 (List.mem_of_getElem? hr))
  refine ⟨r, ?_, ?_, ?_⟩
  · rw [median, tooFew_of_le hrequired, if_neg Bool.false_ne_true, hr]
  · exact (Binary64.le_iff_rank hlo hnumber).2 (lower_of_majority hr hmajority)
  · exact (Binary64.le_iff_rank hnumber hhi).2 (upper_of_majority hr hmajority)

end Quorum

/-! ## Rounds -/

namespace Controller

/-- A round handed an offset to the clock: the clock took it as its last correction, or the refusal
of it is the result of the round. -/
inductive HandsOver {α : Type} (before : Clock) (offset : Binary64) :
    Except Trouble α → Clock → Prop where
  | corrected (result : Except Trouble α) (leap : Int) :
      HandsOver before offset result (before.corrected offset leap)
  | refused (reason : String) (pendingLeap : Int) :
      HandsOver before offset (.error (.failure (.clockWrite offset reason)))
        { before with pendingLeap }

/-- A later round hands the offset of its reference to the clock. -/
theorem cycle_handsOver {c : Controller} {w : World} {r : Reference}
    (h : Quorum.choose (c.polledPeers false w) c.quorum = some r) :
    HandsOver c.clock r.offset (c.cycle w).1 (c.cycle w).2.1.clock := by
  have hend := c.cycle_end w
  generalize (c.cycle w).1 = result at hend ⊢
  generalize (c.cycle w).2.1 = d at hend ⊢
  cases hend with
  | noReference hnone =>
    rw [h] at hnone
    cases hnone
  | refused reason pendingLeap hchoose =>
    obtain rfl := Option.some.inj (h.symm.trans hchoose)
    exact .refused reason pendingLeap
  | noWait hchoose _ =>
    obtain rfl := Option.some.inj (h.symm.trans hchoose)
    exact .corrected _ _
  | unpublished hchoose _ hpublish | published hchoose _ hpublish =>
    obtain rfl := Option.some.inj (h.symm.trans hchoose)
    obtain ⟨_, _, _, _, _, _, rfl⟩ := publish_frame hpublish
    exact .corrected _ _

/-- The first round hands the offset of its reference to the clock. -/
theorem firstSync_handsOver {c : Controller} {w : World} {r : Reference}
    (h : Quorum.choose (c.polledPeers true w) c.quorum = some r) :
    HandsOver c.clock r.offset (c.firstSync w).1 (c.firstSync w).2.1.clock := by
  have hend := c.firstSync_end w
  generalize (c.firstSync w).1 = result at hend ⊢
  generalize (c.firstSync w).2.1 = d at hend ⊢
  cases hend with
  | noReference failure hnone =>
    rw [h] at hnone
    cases hnone
  | refused reason pendingLeap hchoose =>
    obtain rfl := Option.some.inj (h.symm.trans hchoose)
    exact .refused reason pendingLeap
  | unpublished hchoose hpublish | published hchoose hpublish =>
    obtain rfl := Option.some.inj (h.symm.trans hchoose)
    obtain ⟨_, _, _, _, _, _, rfl⟩ := publish_frame hpublish
    exact .corrected _ _

/-- If more than half of the eligible samples of a round have offsets between two bounds, and there
are as many samples as required, then the round hands an offset between the bounds to the clock. -/
theorem majority_decides (c : Controller) (setup : Bool) (w : World) {lo hi : Binary64}
    (hbounds : lo.le hi = true)
    (hnumbers : ∀ r ∈ Quorum.eligible (c.polledPeers setup w), r.offset.isNaN = false)
    (hrequired : c.quorum.le (.int (Quorum.eligible (c.polledPeers setup w)).length) = true)
    (hmajority : (Quorum.eligible (c.polledPeers setup w)).length <
      2 * Quorum.countWithin lo hi (Quorum.eligible (c.polledPeers setup w))) :
    ∃ offset, lo.le offset = true ∧ offset.le hi = true ∧
      (setup = true → HandsOver c.clock offset (c.firstSync w).1 (c.firstSync w).2.1.clock) ∧
      (setup = false → HandsOver c.clock offset (c.cycle w).1 (c.cycle w).2.1.clock) := by
  obtain ⟨r, hmedian, hlower, hupper⟩ :=
    Quorum.median_of_majority hbounds hnumbers hrequired hmajority
  refine ⟨r.offset, hlower, hupper, ?_, ?_⟩
  · rintro rfl
    exact firstSync_handsOver hmedian
  · rintro rfl
    exact cycle_handsOver hmedian

/-- A world of three servers, the last of which is wrong by 500 seconds. -/
def twoOfThreeAgree : World :=
  let answer (offset : Binary64) : Script :=
    { default := .sample ⟨offset, 2, 0, .zero, .zero, .zero, 0, .zero⟩ }
  { names := [("a", .addresses ["192.0.2.1", "192.0.2.2", "192.0.2.3"])]
    network := [("192.0.2.1", answer (.ofDecimal false 1 (-3))),
      ("192.0.2.2", answer (.ofDecimal false 2 (-3))), ("192.0.2.3", answer (.ofInt 500))] }

/-- A controller that asks the three servers and requires a sample of each. -/
def threePeersStarted : Controller :=
  (start? { onePeer (.int 1) with goodFilter := .int 3 } false twoOfThreeAgree).get
    (by decide +kernel)

/-- Two servers that agree decide against one that is wrong. -/
theorem decided_by_twoOfThree : ∃ offset,
    Binary64.le (.ofDecimal false 1 (-3)) offset = true ∧
    offset.le (.ofDecimal false 2 (-3)) = true ∧
    HandsOver threePeersStarted.clock offset (threePeersStarted.cycle twoOfThreeAgree).1
      (threePeersStarted.cycle twoOfThreeAgree).2.1.clock := by
  have hbounds : Binary64.le (.ofDecimal false 1 (-3)) (.ofDecimal false 2 (-3)) = true := by
    decide +kernel
  obtain ⟨offset, hlower, hupper, -, hcycle⟩ :=
    majority_decides threePeersStarted false twoOfThreeAgree hbounds (by decide +kernel)
      (by decide +kernel) (by decide +kernel)
  exact ⟨offset, hlower, hupper, hcycle rfl⟩

end Controller

end Concord
