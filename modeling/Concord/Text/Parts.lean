/-!
# Taking a text apart

Addresses, networks and endpoints are texts of parts with a separator between them. `parts` splits
at every separator, `cutFirst` at the first and `cutLast` at the last. The main statements are
`cutFirst_eq_none` and `cutFirst_eq_some`, and the same two for `cutLast`: they say where the cut is
made, and that nothing but the separator is lost.
-/

namespace Concord.Text

/-- The part in front put before the first of the other parts. -/
def extendFirst (c : Char) : List (List Char) → List (List Char)
  | [] => [[c]]
  | first :: others => (c :: first) :: others

/-- The stretches between the separators, one more than there are separators. -/
def parts (separator : Char) : List Char → List (List Char)
  | [] => [[]]
  | c :: rest =>
    if c = separator then [] :: parts separator rest else extendFirst c (parts separator rest)

/-- What stands before and after the first separator, if there is one. -/
def cutFirst (separator : Char) : List Char → Option (List Char × List Char)
  | [] => none
  | c :: rest =>
    if c = separator then some ([], rest)
    else (cutFirst separator rest).map fun cut => (c :: cut.1, cut.2)

/-- What stands before and after the last separator, if there is one. -/
def cutLast (separator : Char) : List Char → Option (List Char × List Char)
  | [] => none
  | c :: rest =>
    match cutLast separator rest with
    | some (before, after) => some (c :: before, after)
    | none => if c = separator then some ([], rest) else none

/-- A text without a separator is not cut at a first one. -/
theorem cutFirst_eq_none {separator : Char} {chars : List Char} :
    cutFirst separator chars = none ↔ separator ∉ chars := by
  induction chars with
  | nil => simp [cutFirst]
  | cons c rest ih =>
    by_cases h : c = separator
    · simp [cutFirst, h]
    · simp [cutFirst, h, ih, Ne.symm h]

/-- The first cut is made where no separator stands before. -/
theorem cutFirst_eq_some {separator : Char} {chars before after : List Char} :
    cutFirst separator chars = some (before, after) ↔
      chars = before ++ separator :: after ∧ separator ∉ before := by
  induction chars generalizing before with
  | nil => simp [cutFirst]
  | cons c rest ih =>
    by_cases h : c = separator
    · subst h
      cases before with
      | nil => simp [cutFirst]
      | cons d before => simp [cutFirst]; intro hd; simp [hd]
    · cases before with
      | nil => simp [cutFirst, h]
      | cons d before =>
        simp only [cutFirst, h, if_false, Option.map_eq_some_iff, Prod.mk.injEq, List.cons.injEq,
          Prod.exists, List.cons_append, List.mem_cons, not_or]
        constructor
        · rintro ⟨b, a, hcut, ⟨rfl, rfl⟩, rfl⟩
          obtain ⟨rfl, hnot⟩ := ih.1 hcut
          exact ⟨⟨rfl, rfl⟩, Ne.symm h, hnot⟩
        · rintro ⟨⟨rfl, rfl⟩, _, hnot⟩
          exact ⟨before, after, ih.2 ⟨rfl, hnot⟩, ⟨rfl, rfl⟩, rfl⟩

/-- A text without a separator is not cut at a last one. -/
theorem cutLast_eq_none {separator : Char} {chars : List Char} :
    cutLast separator chars = none ↔ separator ∉ chars := by
  induction chars with
  | nil => simp [cutLast]
  | cons c rest ih =>
    cases hrest : cutLast separator rest with
    | none =>
      by_cases h : c = separator
      · simp [cutLast, hrest, h]
      · simp [cutLast, hrest, h, ih.1 hrest, Ne.symm h]
    | some cut =>
      have hmem : separator ∈ rest := by
        by_cases hm : separator ∈ rest
        · exact hm
        · rw [ih.2 hm] at hrest
          cases hrest
      simp [cutLast, hrest, hmem]

/-- The last cut is made where no separator stands after. -/
theorem cutLast_eq_some {separator : Char} {chars before after : List Char} :
    cutLast separator chars = some (before, after) ↔
      chars = before ++ separator :: after ∧ separator ∉ after := by
  induction chars generalizing before with
  | nil => simp [cutLast]
  | cons c rest ih =>
    cases hrest : cutLast separator rest with
    | none =>
      have hnot := cutLast_eq_none.1 hrest
      cases before with
      | nil =>
        by_cases h : c = separator
        · subst h
          simp only [cutLast, hrest, if_true, Option.some.injEq, Prod.mk.injEq, true_and,
            List.nil_append, List.cons.injEq]
          constructor
          · rintro rfl
            exact ⟨rfl, hnot⟩
          · exact fun h => h.1
        · simp [cutLast, hrest, h]
      | cons d before =>
        constructor
        · intro h
          simp only [cutLast, hrest] at h
          split at h <;> simp at h
        · rintro ⟨h, _⟩
          simp only [List.cons_append, List.cons.injEq] at h
          exact absurd (h.2 ▸ List.mem_append_right _ (List.mem_cons_self ..)) hnot
    | some cut =>
      obtain ⟨b, a⟩ := cut
      simp only [cutLast, hrest, Option.some.injEq, Prod.mk.injEq]
      have hmem : separator ∈ rest := by
        by_cases hm : separator ∈ rest
        · exact hm
        · rw [cutLast_eq_none.2 hm] at hrest
          cases hrest
      constructor
      · rintro ⟨rfl, rfl⟩
        obtain ⟨hab, hnot⟩ := ih.1 hrest
        exact ⟨by rw [hab]; rfl, hnot⟩
      · rintro ⟨h, hafter⟩
        cases before with
        | nil =>
          simp only [List.nil_append, List.cons.injEq] at h
          exact absurd (h.2 ▸ hmem) hafter
        | cons d before =>
          simp only [List.cons_append, List.cons.injEq] at h
          have := ih.2 ⟨h.2, hafter⟩
          rw [hrest, Option.some.injEq, Prod.mk.injEq] at this
          exact ⟨by rw [h.1, this.1], this.2⟩

end Concord.Text
