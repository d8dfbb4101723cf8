import Concord.Failure
import Concord.Proofs.NumeralText
import Mathlib.Data.List.TakeWhile

/-!
# What a text can hold

A document that is read from a text has distinct names in every object, since of members with one
name the last counts, and its whole numbers have no more digits than may be read. Nothing else keeps
a document from being read but a not-a-number, which is read but is equal to nothing
(`Document.Defined`), and the levels of lists and objects.

The main statement is `Document.readable_of_read`: a document that is read is readable everywhere.
-/

namespace Concord.Document

mutual

/-- A property holds of a document and of all documents in it. -/
def Everywhere (p : Document → Prop) : Document → Prop
  | list items => p (list items) ∧ EverywhereItems p items
  | object members => p (object members) ∧ EverywhereMembers p members
  | d => p d

/-- A property holds everywhere in the items of a list. -/
def EverywhereItems (p : Document → Prop) : List Document → Prop
  | [] => True
  | item :: items => Everywhere p item ∧ EverywhereItems p items

/-- A property holds everywhere in the values of an object. -/
def EverywhereMembers (p : Document → Prop) : List (String × Document) → Prop
  | [] => True
  | (_, value) :: members => Everywhere p value ∧ EverywhereMembers p members

end

/-- The names of an object are distinct, and a whole number has no more digits than may be read. -/
def Readable : Document → Prop
  | int z => (Nat.toDigits 10 z.natAbs).length ≤ Text.maxDigits
  | object members => (members.map (·.1)).Nodup
  | _ => True

/-- A number is a number. -/
def Defined : Document → Prop
  | real x => x.isNaN = false
  | _ => True

section Everywhere

variable {p q : Document → Prop}

/-- A property holds everywhere in items when it holds everywhere in each of them. -/
theorem everywhereItems_iff {items : List Document} :
    EverywhereItems p items ↔ ∀ item ∈ items, item.Everywhere p := by
  induction items with
  | nil => simp [EverywhereItems]
  | cons item items ih => simp [EverywhereItems, ih]

/-- A property holds everywhere in members when it holds everywhere in each of their values. -/
theorem everywhereMembers_iff {members : List (String × Document)} :
    EverywhereMembers p members ↔ ∀ member ∈ members, member.2.Everywhere p := by
  induction members with
  | nil => simp [EverywhereMembers]
  | cons member members ih => simp [EverywhereMembers, ih]

mutual

/-- Two properties that hold everywhere hold everywhere together. -/
theorem Everywhere.and (d : Document) (hp : d.Everywhere p) (hq : d.Everywhere q) :
    d.Everywhere fun d => p d ∧ q d := by
  cases d with
  | null | bool | int | real | text => exact ⟨hp, hq⟩
  | list items => exact ⟨⟨hp.1, hq.1⟩, EverywhereItems.and items hp.2 hq.2⟩
  | object members => exact ⟨⟨hp.1, hq.1⟩, EverywhereMembers.and members hp.2 hq.2⟩

/-- Two properties that hold everywhere in items hold everywhere together. -/
theorem EverywhereItems.and (items : List Document) (hp : EverywhereItems p items)
    (hq : EverywhereItems q items) : EverywhereItems (fun d => p d ∧ q d) items := by
  cases items with
  | nil => trivial
  | cons item items =>
    exact ⟨Everywhere.and item hp.1 hq.1, EverywhereItems.and items hp.2 hq.2⟩

/-- Two properties that hold everywhere in members hold everywhere together. -/
theorem EverywhereMembers.and (members : List (String × Document))
    (hp : EverywhereMembers p members) (hq : EverywhereMembers q members) :
    EverywhereMembers (fun d => p d ∧ q d) members := by
  cases members with
  | nil => trivial
  | cons member members =>
    exact ⟨Everywhere.and member.2 hp.1 hq.1, EverywhereMembers.and members hp.2 hq.2⟩

end

end Everywhere

/-! ## Members -/

/-- The names after one more member are those before it and its own. -/
theorem mem_names_put {members : List (String × Document)} {name other : String}
    {value : Document} :
    other ∈ (put members name value).map (·.1) ↔ other ∈ members.map (·.1) ∨ other = name := by
  induction members with
  | nil => simp [put]
  | cons member members ih =>
    rw [put]
    split
    · rename_i h
      simp [h, or_comm]
    · simp [ih, or_assoc]

/-- One more member leaves the names distinct. -/
theorem nodup_put {members : List (String × Document)} {name : String} (value : Document)
    (h : (members.map (·.1)).Nodup) : ((put members name value).map (·.1)).Nodup := by
  induction members with
  | nil => simp [put]
  | cons member members ih =>
    rw [List.map_cons, List.nodup_cons] at h
    rw [put]
    split
    · rename_i hname
      rw [List.map_cons, List.nodup_cons, ← hname]
      exact h
    · rename_i hname
      rw [List.map_cons, List.nodup_cons, mem_names_put]
      exact ⟨not_or.2 ⟨h.1, hname⟩, ih h.2⟩

/-- The values after one more member are among those before it and its own. -/
theorem mem_put {members : List (String × Document)} {name : String} {value : Document}
    {member : String × Document} (h : member ∈ put members name value) :
    member ∈ members ∨ member = (name, value) := by
  induction members with
  | nil => exact .inr (List.mem_singleton.1 h)
  | cons other members ih =>
    rw [put] at h
    split at h
    · rcases List.mem_cons.1 h with rfl | h
      · exact .inr rfl
      · exact .inl (List.mem_cons_of_mem _ h)
    · rcases List.mem_cons.1 h with rfl | h
      · exact .inl List.mem_cons_self
      · exact (ih h).imp_left (List.mem_cons_of_mem _)

/-- The members after others are put to them, one by one. -/
def putAll (members pairs : List (String × Document)) : List (String × Document) :=
  pairs.foldl (fun members pair => put members pair.1 pair.2) members

/-- Others leave the names distinct. -/
theorem nodup_putAll {members : List (String × Document)} (pairs : List (String × Document))
    (h : (members.map (·.1)).Nodup) : ((putAll members pairs).map (·.1)).Nodup := by
  induction pairs generalizing members with
  | nil => exact h
  | cons pair pairs ih => exact ih (nodup_put pair.2 h)

/-- The members after others are among those before them and the others. -/
theorem mem_putAll {members pairs : List (String × Document)} {member : String × Document}
    (h : member ∈ putAll members pairs) : member ∈ members ∨ member ∈ pairs := by
  induction pairs generalizing members with
  | nil => exact .inl h
  | cons pair pairs ih =>
    rcases ih h with hput | hpairs
    · rcases mem_put hput with hbefore | rfl
      · exact .inl hbefore
      · exact .inr List.mem_cons_self
    · exact .inr (List.mem_cons_of_mem _ hpairs)

/-- The members of pairs have distinct names. -/
theorem nodup_ofPairs (pairs : List (String × Document)) : ((ofPairs pairs).map (·.1)).Nodup :=
  nodup_putAll pairs List.nodup_nil

/-- The members of pairs are among the pairs. -/
theorem mem_of_mem_ofPairs {pairs : List (String × Document)} {member : String × Document}
    (h : member ∈ ofPairs pairs) : member ∈ pairs :=
  (mem_putAll h).resolve_left List.not_mem_nil

/-! ## Numbers -/

/-- The number of digits is below the power of ten of their count. -/
theorem digitsValue_lt {digits : List Char} (h : ∀ c ∈ digits, c.isDigit = true) :
    digitsValue digits < 10 ^ digits.length := by
  rw [digitsValue_eq]
  induction digits with
  | nil => exact Nat.one_pos
  | cons c digits ih =>
    have hrest := ih fun d hd => h d (List.mem_cons_of_mem _ hd)
    have hdigit : c.toNat - '0'.toNat ≤ 9 := by
      have : 48 ≤ c.toNat ∧ c.toNat ≤ 57 := Char.isDigit_iff_toNat.1 (h c List.mem_cons_self)
      show c.toNat - 48 ≤ 9
      omega
    have hscaled : 10 ^ digits.length * (c.toNat - '0'.toNat) ≤ 10 ^ digits.length * 9 :=
      Nat.mul_le_mul_left _ hdigit
    rw [Nat.ofDigitChars_cons, Nat.ofDigitChars_eq_ofDigitChars_zero, Nat.mul_zero, Nat.zero_add,
      List.length_cons, Nat.pow_succ]
    omega

/-- A whole part consists of digits. -/
theorem digits_of_readWhole {input whole rest : List Char}
    (h : readWhole input = some (whole, rest)) :
    whole ≠ [] ∧ ∀ c ∈ whole, c.isDigit = true := by
  unfold readWhole at h
  split at h
  · obtain ⟨rfl, rfl⟩ := Prod.mk.inj (Option.some.inj h)
    exact ⟨List.cons_ne_nil _ _, isDigit_zeros 1⟩
  · rename_i c tail _
    by_cases hc : c.isDigit = true
    · rw [if_pos hc, spanDigits, List.span_eq_takeWhile_dropWhile] at h
      obtain ⟨rfl, rfl⟩ := Prod.mk.inj (Option.some.inj h)
      refine ⟨?_, fun d hd => List.mem_takeWhile_imp hd⟩
      rw [List.takeWhile_cons_of_pos hc]
      exact List.cons_ne_nil _ _
    · rw [if_neg hc] at h
      cases h
  · cases h

/-- A number that is read is readable. -/
theorem readable_of_readNumber {input rest : List Char} {d : Document}
    (h : readNumber input = .ok (d, rest)) : d.Everywhere Readable := by
  unfold readNumber at h
  split at h
  rename_i negative unsigned _
  split at h
  · cases h
  · rename_i whole behind hwhole
    obtain ⟨hne, hdigits⟩ := digits_of_readWhole hwhole
    dsimp only at h
    split at h
    · split at h
      · rename_i hlength
        obtain ⟨rfl, rfl⟩ := Prod.mk.inj (Except.ok.inj h)
        have habs : (if negative = true then -(digitsValue whole : Int)
            else digitsValue whole).natAbs = digitsValue whole := by
          split <;> omega
        show (Nat.toDigits 10 (Int.natAbs _)).length ≤ Text.maxDigits
        rw [habs]
        refine Nat.le_trans ?_ hlength
        exact (Nat.length_toDigits_le_iff (by decide) (List.length_pos_iff.2 hne)).2
          (digitsValue_lt hdigits)
      · cases h
    · obtain ⟨rfl, rfl⟩ := Prod.mk.inj (Except.ok.inj h)
      trivial

/-! ## Values -/

/-- A fixed word is readable. -/
theorem readable_of_readWord {input rest : List Char} {d : Document}
    (h : readWord input = some (d, rest)) : d.Everywhere Readable := by
  unfold readWord at h
  split at h <;> cases h <;> trivial

/-- What the readers give within a bound is readable everywhere. -/
structure ReadersGive (bound : Nat) : Prop where
  value : ∀ {nesting input d rest}, readValue bound nesting input = .ok (d, rest) →
    d.Everywhere Readable
  items : ∀ {nesting input items rest}, readItems bound nesting input = .ok (items, rest) →
    EverywhereItems Readable items
  members : ∀ {nesting input members rest}, readMembers bound nesting input = .ok (members, rest) →
    EverywhereMembers Readable members

variable {bound nesting : Nat} {input rest : List Char}

/-- A value is readable when its parts are. -/
theorem ReadersGive.readable_value (hgive : ReadersGive bound) {d : Document}
    (h : readValue (bound + 1) nesting input = .ok (d, rest)) : d.Everywhere Readable := by
  rw [readValue.eq_def] at h
  dsimp only at h
  split at h
  · obtain ⟨⟨chars, behind⟩, -, h⟩ := bind_eq_ok.1 h
    cases h
    trivial
  · split at h
    · cases h
    · cases h
      exact ⟨List.nodup_nil, trivial⟩
    · obtain ⟨⟨pairs, behind⟩, hpairs, h⟩ := bind_eq_ok.1 h
      cases h
      have hread := everywhereMembers_iff.1 (hgive.members hpairs)
      exact ⟨nodup_ofPairs pairs,
        everywhereMembers_iff.2 fun member hmem => hread _ (mem_of_mem_ofPairs hmem)⟩
  · split at h
    · cases h
    · cases h
      exact ⟨trivial, trivial⟩
    · obtain ⟨⟨items, behind⟩, hitems, h⟩ := bind_eq_ok.1 h
      cases h
      exact ⟨trivial, hgive.items hitems⟩
  · split at h
    · cases h
      exact readable_of_readWord ‹_›
    · exact readable_of_readNumber h

/-- Items are readable when the first and the others are. -/
theorem ReadersGive.readable_items (hgive : ReadersGive bound) {items : List Document}
    (h : readItems (bound + 1) nesting input = .ok (items, rest)) :
    EverywhereItems Readable items := by
  rw [readItems] at h
  obtain ⟨⟨item, behind⟩, hitem, h⟩ := bind_eq_ok.1 h
  dsimp only at h
  split at h
  · cases h
    exact ⟨hgive.value hitem, trivial⟩
  · obtain ⟨⟨items, after⟩, hitems, h⟩ := bind_eq_ok.1 h
    cases h
    exact ⟨hgive.value hitem, hgive.items hitems⟩
  · cases h

/-- Members are readable when the value of the first and the others are. -/
theorem ReadersGive.readable_members (hgive : ReadersGive bound)
    {members : List (String × Document)}
    (h : readMembers (bound + 1) nesting input = .ok (members, rest)) :
    EverywhereMembers Readable members := by
  rw [readMembers.eq_def] at h
  dsimp only at h
  split at h
  · obtain ⟨⟨name, behind⟩, -, h⟩ := bind_eq_ok.1 h
    dsimp only at h
    split at h
    · obtain ⟨⟨value, after⟩, hvalue, h⟩ := bind_eq_ok.1 h
      dsimp only at h
      split at h
      · cases h
        exact ⟨hgive.value hvalue, trivial⟩
      · obtain ⟨⟨members, last⟩, hmembers, h⟩ := bind_eq_ok.1 h
        cases h
        exact ⟨hgive.value hvalue, hgive.members hmembers⟩
      · cases h
    · cases h
  · cases h

/-- What the readers give is readable everywhere, by induction on the bound. -/
theorem readersGive (bound : Nat) : ReadersGive bound := by
  induction bound with
  | zero =>
    refine ⟨fun h => ?_, fun h => ?_, fun h => ?_⟩
    · rw [readValue] at h
      cases h
    · rw [readItems] at h
      cases h
    · rw [readMembers] at h
      cases h
  | succ bound ih => exact ⟨ih.readable_value, ih.readable_items, ih.readable_members⟩

/-- A document that is read is readable everywhere. -/
theorem readable_of_read {s : String} {d : Document} (h : Document.read s = .ok d) :
    d.Everywhere Readable := by
  unfold Document.read readChars at h
  split at h
  · cases h
  · obtain ⟨⟨document, rest⟩, hread, h⟩ := bind_eq_ok.1 h
    dsimp only at h
    split at h
    · cases h
      exact (readersGive _).value hread
    · cases h

end Concord.Document
