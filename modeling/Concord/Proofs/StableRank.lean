import Concord.Proofs.Majority

/-!
# The rank of the reference

Among the eligible samples of a round each has a place: as many stand in front of it as have smaller
offsets, and of those with the same offset as many as are eligible before it (`standing`). Sorting
brings every sample to its place (`exists_of_sortByOffset`), and no two have the same one
(`place_inj`), so there is one sample that has half their number in front of it.

The main statement is `chosen_by_standing`: this sample is the reference, if there are enough of
them, and samples that are not eligible have no part in that.
-/

namespace Concord

/-- The numbers are equal. The two zeros are, and not-a-number is equal to nothing. -/
def Binary64.same (x y : Binary64) : Bool := x.le y && y.le x

/-- Of numbers, equal ones have one position. -/
theorem Binary64.same_iff_rank {x y : Binary64} (hx : x.isNaN = false) (hy : y.isNaN = false) :
    x.same y = true ↔ x.rank = y.rank := by
  rw [same, Bool.and_eq_true, le_iff_rank hx hy, le_iff_rank hy hx]
  omega

namespace Quorum

/-! ## Sorted references -/

/-- The number of references whose offsets stand before a position. -/
def below (k : Int) (references : List Reference) : Nat :=
  references.countP fun s => s.offset.rank < k

/-- Of sorted references those before a position stand in front. -/
theorem rank_lt_iff_of_sorted {sorted : List Reference}
    (h : sorted.Pairwise fun s t => s.offset.rank ≤ t.offset.rank) {i : Nat} {r : Reference}
    (hr : sorted[i]? = some r) (k : Int) : r.offset.rank < k ↔ i < below k sorted := by
  induction sorted generalizing i with
  | nil => cases hr
  | cons s rest ih =>
    obtain ⟨hs, hrest⟩ := List.pairwise_cons.1 h
    -- If the first reference does not count, neither does any other.
    have hnone (hnot : ¬ s.offset.rank < k) :
        rest.countP (fun t => decide (t.offset.rank < k)) = 0 := by
      refine List.countP_eq_zero.2 fun t ht => ?_
      have := hs t ht
      simp only [decide_eq_true_eq]
      omega
    unfold below
    rw [List.countP_cons]
    simp only [decide_eq_true_eq]
    cases i with
    | zero =>
      obtain rfl : s = r := Option.some.inj hr
      by_cases hlt : s.offset.rank < k
      · simp [hlt]
      · simp [hlt, hnone hlt]
    | succ i =>
      have hle := hs r (List.mem_of_getElem? hr)
      by_cases hlt : s.offset.rank < k
      · rw [if_pos hlt, Nat.add_lt_add_iff_right]
        exact ih hrest hr
      · rw [if_neg hlt, hnone hlt]
        omega

/-- A reference is inserted behind those with smaller offsets. -/
theorem insertByOffset_eq (r : Reference) {sorted : List Reference}
    (h : sorted.Pairwise fun s t => s.offset.rank ≤ t.offset.rank) :
    insertByOffset r sorted = sorted.take (below r.offset.rank sorted) ++
      r :: sorted.drop (below r.offset.rank sorted) := by
  induction sorted with
  | nil => rfl
  | cons s rest ih =>
    obtain ⟨hs, hrest⟩ := List.pairwise_cons.1 h
    by_cases hlt : s.offset.rank < r.offset.rank
    · have hbelow : below r.offset.rank (s :: rest) = below r.offset.rank rest + 1 :=
        List.countP_cons_of_pos (decide_eq_true hlt)
      rw [insertByOffset, if_pos hlt, ih hrest, hbelow]
      rfl
    · have hbelow : below r.offset.rank (s :: rest) = 0 := by
        refine Nat.eq_zero_of_not_pos fun hpos => hlt ?_
        exact (rank_lt_iff_of_sorted h (i := 0) rfl _).2 hpos
      rw [insertByOffset, if_neg hlt, hbelow]
      rfl

/-! ## Places -/

/-- The place of a reference at an index: the number of those with smaller offsets and, of those
with the same offset, of those at a lower index. -/
def place (references : List Reference) (i : Nat) (r : Reference) : Nat :=
  below r.offset.rank references +
    (references.take i).countP fun s => s.offset.rank = r.offset.rank

/-- One more reference in front moves those behind whose offsets are not smaller. -/
theorem place_cons (x : Reference) (references : List Reference) (i : Nat) (r : Reference) :
    place (x :: references) (i + 1) r =
      place references i r + if r.offset.rank < x.offset.rank then 0 else 1 := by
  unfold place below
  rw [List.take_succ_cons, List.countP_cons, List.countP_cons]
  simp only [decide_eq_true_eq]
  split <;> split <;> split <;> omega

/-- What sorting brings to an index has its place there. -/
theorem exists_of_sortByOffset {references : List Reference} {k : Nat} {r : Reference}
    (h : (sortByOffset references)[k]? = some r) :
    ∃ i, references[i]? = some r ∧ place references i r = k := by
  induction references generalizing k with
  | nil => cases h
  | cons x rest ih =>
    have hsorted := sortByOffset_pairwise rest
    have hbelow : below x.offset.rank (sortByOffset rest) = below x.offset.rank rest :=
      (sortByOffset_perm rest).countP_eq _
    have hfront : ((sortByOffset rest).take (below x.offset.rank rest)).length =
        below x.offset.rank rest := by
      rw [List.length_take, ← hbelow]
      exact Nat.min_eq_left List.countP_le_length
    have hinsert : sortByOffset (x :: rest) =
        (sortByOffset rest).take (below x.offset.rank rest) ++
          x :: (sortByOffset rest).drop (below x.offset.rank rest) := by
      rw [← hbelow]
      exact insertByOffset_eq x hsorted
    rw [hinsert] at h
    rcases Nat.lt_trichotomy k (below x.offset.rank rest) with hlt | heq | hgt
    · -- In front of the new reference nothing has moved.
      rw [List.getElem?_append_left (by omega), List.getElem?_take, if_pos hlt] at h
      obtain ⟨i, hi, hplace⟩ := ih h
      have hsmaller := (rank_lt_iff_of_sorted hsorted h x.offset.rank).2 (by omega)
      refine ⟨i + 1, hi, ?_⟩
      rw [place_cons, if_pos hsmaller, hplace, Nat.add_zero]
    · rw [List.getElem?_append_right (by omega), hfront, heq, Nat.sub_self,
        List.getElem?_cons_zero] at h
      obtain rfl := Option.some.inj h
      refine ⟨0, rfl, ?_⟩
      rw [place, List.take_zero, List.countP_nil, heq, Nat.add_zero]
      exact List.countP_cons_of_neg (by simp)
    · -- Behind it everything has moved by one.
      obtain ⟨j, rfl⟩ : ∃ j, k = j + 1 := ⟨k - 1, by omega⟩
      rw [List.getElem?_append_right (by omega), hfront, Nat.sub_add_comm (by omega),
        List.getElem?_cons_succ, List.getElem?_drop, Nat.add_sub_cancel' (by omega)] at h
      obtain ⟨i, hi, hplace⟩ := ih h
      have hnot : ¬ r.offset.rank < x.offset.rank := by
        rw [rank_lt_iff_of_sorted hsorted h]
        omega
      refine ⟨i + 1, hi, ?_⟩
      rw [place_cons, if_neg hnot, hplace]

/-- A reference is one of its offset more than stand at lower indices. -/
theorem countP_take_lt {references : List Reference} {i j : Nat} {r : Reference}
    (hr : references[i]? = some r) (h : i < j) :
    (references.take i).countP (fun s => s.offset.rank = r.offset.rank) <
      (references.take j).countP fun s => s.offset.rank = r.offset.rank := by
  have hone : (references.take (i + 1)).countP (fun s => s.offset.rank = r.offset.rank) =
      (references.take i).countP (fun s => s.offset.rank = r.offset.rank) + 1 := by
    rw [List.take_add_one, hr, List.countP_append]
    simp
  have hsub : (references.take (i + 1)).countP (fun s => s.offset.rank = r.offset.rank) ≤
      (references.take j).countP fun s => s.offset.rank = r.offset.rank :=
    (List.take_sublist_take_left h).countP_le
  omega

/-- A reference has its place in front of all those with larger offsets. -/
theorem place_lt {references : List Reference} {i : Nat} {r : Reference}
    (hr : references[i]? = some r) :
    place references i r < below (r.offset.rank + 1) references := by
  have hsplit : below (r.offset.rank + 1) references = below r.offset.rank references +
      references.countP fun s => s.offset.rank = r.offset.rank := by
    unfold below
    clear hr
    induction references with
    | nil => rfl
    | cons s rest ih =>
      rw [List.countP_cons, List.countP_cons, List.countP_cons, ih]
      simp only [decide_eq_true_eq]
      split <;> split <;> split <;> omega
  obtain ⟨hi, -⟩ := List.getElem?_eq_some_iff.1 hr
  have hlt := countP_take_lt hr hi
  rw [List.take_length] at hlt
  rw [hsplit]
  exact Nat.add_lt_add_left hlt _

/-- No two references have the same place. -/
theorem place_inj {references : List Reference} {i j : Nat} {r s : Reference}
    (hr : references[i]? = some r) (hs : references[j]? = some s)
    (h : place references i r = place references j s) : i = j := by
  have hmono {k k' : Int} (hk : k ≤ k') : below k references ≤ below k' references :=
    List.countP_mono_left fun t _ ht =>
      decide_eq_true (Int.lt_of_lt_of_le (of_decide_eq_true ht) hk)
  have hrlt := place_lt hr
  have hslt := place_lt hs
  rcases Int.lt_trichotomy r.offset.rank s.offset.rank with hlt | heq | hlt
  · have := hmono (Int.add_one_le_of_lt hlt)
    unfold place at h hrlt
    omega
  · unfold place at h
    rw [heq] at h
    rcases Nat.lt_trichotomy i j with hij | hij | hij
    · have := countP_take_lt hr hij
      rw [heq] at this
      omega
    · exact hij
    · have := countP_take_lt hs hij
      omega
  · have := hmono (Int.add_one_le_of_lt hlt)
    unfold place at h hslt
    omega

/-! ## The choice -/

/-- The median is the reference that has its place in the middle, if there are enough. -/
theorem median_eq_some_iff {references : List Reference} {required : Number} {r : Reference} :
    median references required = some r ↔ tooFew references required = false ∧
      ∃ i, references[i]? = some r ∧ place references i r = references.length / 2 := by
  unfold median
  cases tooFew references required with
  | true => simp
  | false =>
    rw [if_neg Bool.false_ne_true]
    constructor
    · intro h
      exact ⟨rfl, exists_of_sortByOffset h⟩
    · rintro ⟨-, i, hi, hplace⟩
      have hmiddle : references.length / 2 < (sortByOffset references).length := by
        obtain ⟨hlt, -⟩ := List.getElem?_eq_some_iff.1 hi
        rw [length_sortByOffset]
        omega
      have hsorted := List.getElem?_eq_getElem hmiddle
      obtain ⟨j, hj, hplace'⟩ := exists_of_sortByOffset hsorted
      -- The places are the same, so the indices are.
      obtain rfl := place_inj hi hj (hplace.trans hplace'.symm)
      rw [hsorted, ← hj, hi]

/-- There is a median when there are references, and not too few of them. -/
theorem median_eq_none_iff {references : List Reference} {required : Number} :
    median references required = none ↔
      references = [] ∨ tooFew references required = true := by
  unfold median
  cases tooFew references required with
  | true => simp
  | false =>
    rw [if_neg Bool.false_ne_true, List.getElem?_eq_none_iff, length_sortByOffset,
      ← List.length_eq_zero_iff]
    simp only [Bool.false_eq_true, or_false]
    omega

/-- References with the same offsets have their medians at one index. -/
theorem map_median_congr {α : Type} {references others : List Reference} {f g : Reference → α}
    (h : references.map (fun r => (r.offset, f r)) = others.map fun r => (r.offset, g r))
    (required : Number) :
    (median references required).map f = (median others required).map g := by
  have hlength : references.length = others.length := by
    simpa only [List.length_map] using congrArg List.length h
  have hfew : tooFew references required = tooFew others required := by
    unfold tooFew
    rw [hlength]
  have hoffsets : references.map (·.offset) = others.map (·.offset) := by
    have hfirst := congrArg (List.map Prod.fst) h
    rwa [List.map_map, List.map_map] at hfirst
  have hcount (p : Binary64 → Bool) (k : Nat) : (references.take k).countP (fun r => p r.offset) =
      (others.take k).countP fun r => p r.offset := by
    have htake := congrArg (fun offsets => (offsets.take k).countP p) hoffsets
    simpa only [← List.map_take, List.countP_map, Function.comp_def] using htake
  cases hr : median references required with
  | none =>
    have hnone : median others required = none := by
      rw [median_eq_none_iff, ← hfew, ← List.length_eq_zero_iff, ← hlength,
        List.length_eq_zero_iff, ← median_eq_none_iff]
      exact hr
    rw [hnone]
    rfl
  | some r =>
    obtain ⟨hmany, i, hi, hplace⟩ := median_eq_some_iff.1 hr
    have hboth := congrArg (·[i]?) h
    simp only [List.getElem?_map, hi, Option.map_some] at hboth
    obtain ⟨s, hs, hsame⟩ := Option.map_eq_some_iff.1 hboth.symm
    obtain ⟨hoffset, hg⟩ := Prod.mk.inj hsame
    have hs' : median others required = some s := by
      refine median_eq_some_iff.2 ⟨hfew ▸ hmany, i, hs, ?_⟩
      have hbelow := hcount (fun x => x.rank < r.offset.rank) references.length
      rw [List.take_length, hlength, List.take_length] at hbelow
      have hequal := hcount (fun x => x.rank = r.offset.rank) i
      unfold place below at hplace ⊢
      rw [hoffset, ← hbelow, ← hequal, hplace, hlength]
    rw [hs']
    exact congrArg some hg.symm

/-- The eligible samples with their peers: those of a valid stratum of every healthy peer, in
order. -/
def eligiblePairs (peers : List Peer) : List (Peer × Sample) :=
  (peers.filter (·.healthy)).flatMap fun p =>
    (p.samples.filter fun s => decide (s.stratum < invalidStratum)).map (p, ·)

/-- These are the samples among which the reference is chosen. -/
theorem map_pair_eligible (peers : List Peer) :
    (eligible peers).map (fun r => (r.peer, r.sample)) = eligiblePairs peers := by
  rw [map_eligible Prod.mk, eligiblePairs]
  induction peers with
  | nil => rfl
  | cons p rest ih =>
    rw [List.flatMap_cons, ih]
    cases hp : p.healthy with
    | false => rw [List.filter_cons_of_neg (by simp [hp])]; rfl
    | true => rw [List.filter_cons_of_pos hp, List.flatMap_cons, if_pos rfl]

/-- A peer with its samples of a valid stratum only. -/
def cleaned (p : Peer) : Peer :=
  { p with samples := p.samples.filter fun s => decide (s.stratum < invalidStratum) }

/-- The healthy peers with their samples of a valid stratum only. -/
def cleanedPeers (peers : List Peer) : List Peer := (peers.filter (·.healthy)).map cleaned

/-- Without the samples that are not eligible, those that are stay. -/
theorem eligiblePairs_cleanedPeers (peers : List Peer) :
    eligiblePairs (cleanedPeers peers) =
      (eligiblePairs peers).map fun pair => (cleaned pair.1, pair.2) := by
  unfold cleanedPeers eligiblePairs
  have hhealthy : ((peers.filter (·.healthy)).map cleaned).filter (·.healthy) =
      (peers.filter (·.healthy)).map cleaned := by
    refine List.filter_eq_self.2 fun p hp => ?_
    obtain ⟨q, hq, rfl⟩ := List.mem_map.1 hp
    exact (List.mem_filter.1 hq).2
  rw [hhealthy, List.flatMap_map, List.map_flatMap]
  congr 1
  funext p
  rw [List.map_map, cleaned, List.filter_filter]
  simp only [Bool.and_self]
  rfl

/-- The number of samples in front of one with the given offset at an index: those with smaller
offsets, and those with the same offset at lower indices. -/
def standing (pairs : List (Peer × Sample)) (i : Nat) (x : Binary64) : Nat :=
  pairs.countP (fun pair => pair.2.offset.lt x) +
    (pairs.take i).countP fun pair => pair.2.offset.same x

/-- Among numbers the standing of a sample is its place. -/
theorem standing_eq_place {peers : List Peer}
    (h : ∀ pair ∈ eligiblePairs peers, pair.2.offset.isNaN = false) {i : Nat} {r : Reference}
    (hr : (eligible peers)[i]? = some r) :
    standing (eligiblePairs peers) i r.offset = place (eligible peers) i r := by
  have hnumber {s : Reference} (hs : s ∈ eligible peers) : s.offset.isNaN = false := by
    refine h (s.peer, s.sample) ?_
    rw [← map_pair_eligible]
    exact List.mem_map_of_mem (f := fun r : Reference => (r.peer, r.sample)) hs
  have hx := hnumber (List.mem_of_getElem? hr)
  unfold standing place below
  rw [← map_pair_eligible, ← List.map_take, List.countP_map, List.countP_map]
  congr 1
  · refine List.countP_congr fun s hs => ?_
    exact (Binary64.lt_iff_rank (hnumber hs) hx).trans decide_eq_true_iff.symm
  · refine List.countP_congr fun s hs => ?_
    exact (Binary64.same_iff_rank (hnumber (List.mem_of_mem_take hs)) hx).trans
      decide_eq_true_iff.symm

/-- If no offset is not-a-number, the reference of a round is the one eligible sample that has half
their number in front of it. There is none exactly if no sample is eligible, or fewer than required
are. The samples that are not eligible could as well not be there. -/
theorem chosen_by_standing (peers : List Peer) (required : Number)
    (h : ∀ pair ∈ eligiblePairs peers, pair.2.offset.isNaN = false) :
    (choose peers required = none ↔ eligiblePairs peers = [] ∨
      (Number.int (eligiblePairs peers).length).lt required = true) ∧
    (∀ r, choose peers required = some r → ∃ i, (eligible peers)[i]? = some r ∧
      (eligiblePairs peers)[i]? = some (r.peer, r.sample) ∧
      standing (eligiblePairs peers) i r.offset = (eligiblePairs peers).length / 2 ∧
      ∀ j pair, (eligiblePairs peers)[j]? = some pair →
        standing (eligiblePairs peers) j pair.2.offset = (eligiblePairs peers).length / 2 →
        j = i) ∧
    (choose (cleanedPeers peers) required).map (fun r => (r.peer, r.sample)) =
      (choose peers required).map fun r => (cleaned r.peer, r.sample) := by
  have hpairs := map_pair_eligible peers
  have hlength : (eligiblePairs peers).length = (eligible peers).length := by
    rw [← hpairs, List.length_map]
  have hat {i : Nat} {pair : Peer × Sample} (hi : (eligiblePairs peers)[i]? = some pair) :
      ∃ r, (eligible peers)[i]? = some r ∧ (r.peer, r.sample) = pair := by
    rw [← hpairs, List.getElem?_map] at hi
    exact Option.map_eq_some_iff.1 hi
  refine ⟨?_, ?_, ?_⟩
  · have hempty : eligible peers = [] ↔ eligiblePairs peers = [] := by
      rw [← List.length_eq_zero_iff, ← hlength, List.length_eq_zero_iff]
    rw [choose, median_eq_none_iff, hempty, tooFew, hlength]
  · intro r hr
    obtain ⟨-, i, hi, hplace⟩ := median_eq_some_iff.1 hr
    refine ⟨i, hi, ?_, ?_, ?_⟩
    · rw [← hpairs, List.getElem?_map, hi, Option.map_some]
    · rw [standing_eq_place h hi, hplace, hlength]
    · intro j pair hj hstanding
      obtain ⟨s, hs, rfl⟩ := hat hj
      have hplace' : standing (eligiblePairs peers) j s.offset = (eligible peers).length / 2 :=
        hstanding.trans (by rw [hlength])
      rw [standing_eq_place h hs] at hplace'
      exact place_inj hs hi (hplace'.trans hplace.symm)
  · refine map_median_congr ?_ required
    have hcleaned := congrArg (List.map fun pair => (pair.2.offset, pair))
      (map_pair_eligible (cleanedPeers peers))
    rw [eligiblePairs_cleanedPeers, ← hpairs, List.map_map, List.map_map, List.map_map] at hcleaned
    exact hcleaned

/-- A peer with samples of the given offsets, each from a source of the given stratum. -/
def peerOf (healthy : Bool) (samples : List (Binary64 × Int)) : Peer :=
  { origin := "a", address := "192.0.2.1", healthy
    samples := samples.map fun s => ⟨s.1, s.2, 0, .zero, .zero, .zero, 0, .zero⟩ }

/-- Three peers, the second of them not healthy. Of the last one the first sample is of no valid
stratum, and the second one is a negative zero. -/
def mixedPeers : List Peer :=
  [peerOf true [(.zero, 2), (.ofInt (-1), 2)], peerOf false [(.ofInt (-2), 2)],
    peerOf true [(.ofInt (-3), 16), (.signedZero true, 3), (.infinite false, 1)]]

/-- Of two zeros among four samples the later one is the reference. -/
theorem chosen_of_mixedPeers :
    (∀ pair ∈ eligiblePairs mixedPeers, pair.2.offset.isNaN = false) ∧
      (choose mixedPeers (.int 3)).map (fun r => (r.peerIndex, r.sampleIndex)) = some (2, 1) ∧
      ∃ i r, choose mixedPeers (.int 3) = some r ∧ (eligible mixedPeers)[i]? = some r ∧
        standing (eligiblePairs mixedPeers) i r.offset = 2 := by
  have hnumbers : ∀ pair ∈ eligiblePairs mixedPeers, pair.2.offset.isNaN = false := by
    decide +kernel
  have hchosen : (choose mixedPeers (.int 3)).map (fun r => (r.peerIndex, r.sampleIndex)) =
      some (2, 1) := by decide +kernel
  obtain ⟨r, hr, -⟩ := Option.map_eq_some_iff.1 hchosen
  obtain ⟨i, hi, -, hstanding, -⟩ :=
    (chosen_by_standing mixedPeers (.int 3) hnumbers).2.1 r hr
  exact ⟨hnumbers, hchosen, i, r, hr, hi, hstanding⟩

end Quorum

end Concord
