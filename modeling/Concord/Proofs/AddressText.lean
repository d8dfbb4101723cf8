import Concord.Address.Basic

/-!
# Reading the text of an address

An address is written in one way only, and reading the text gives it back (`read?_text`). So the
texts of two addresses are equal exactly when the addresses are (`text_inj`), and it makes no
difference whether clients are told apart by addresses or by their texts.

Groups are read one by one. The pair of colons that stands for the run of zeros left out is the
first one in the text (`cutGap_joined_append`), because no group is empty.
-/

namespace Concord

namespace Text

/-! ## Joined parts -/

/-- A text without a separator is its only part. -/
theorem parts_of_not_mem {separator : Char} {chars : List Char} (h : separator ∉ chars) :
    parts separator chars = [chars] := by
  induction chars with
  | nil => rfl
  | cons c rest ih =>
    obtain ⟨hc, hrest⟩ := not_or.1 (fun hmem => h (List.mem_cons.2 hmem))
    rw [parts, if_neg (Ne.symm hc), ih hrest]
    rfl

/-- The first part ends at the first separator. -/
theorem parts_append_cons {separator : Char} {first : List Char} (rest : List Char)
    (h : separator ∉ first) :
    parts separator (first ++ separator :: rest) = first :: parts separator rest := by
  induction first with
  | nil => rw [List.nil_append, parts, if_pos rfl]
  | cons c first ih =>
    obtain ⟨hc, hfirst⟩ := not_or.1 (fun hmem => h (List.mem_cons.2 hmem))
    rw [List.cons_append, parts, if_neg (Ne.symm hc), ih hfirst]
    rfl

/-- Joined parts are the parts of the whole. -/
theorem parts_intercalate {separator : Char} {pieces : List (List Char)} (hne : pieces ≠ [])
    (h : ∀ piece ∈ pieces, separator ∉ piece) :
    parts separator ([separator].intercalate pieces) = pieces := by
  induction pieces with
  | nil => exact absurd rfl hne
  | cons first rest ih =>
    have hfirst := h first List.mem_cons_self
    cases rest with
    | nil => rw [List.intercalate_singleton, parts_of_not_mem hfirst]
    | cons second others =>
      rw [List.intercalate_cons_cons, List.append_assoc, List.singleton_append,
        parts_append_cons _ hfirst, ih (List.cons_ne_nil _ _)
          fun piece hpiece => h piece (List.mem_cons_of_mem _ hpiece)]

/-! ## Hexadecimal digits -/

/-- The digits in lower case have their values. -/
theorem hexValue?_digitChar {n : Nat} (h : n < 16) : hexValue? n.digitChar = some n := by
  have hall : ∀ k : Fin 16, hexValue? k.val.digitChar = some k.val := by decide
  exact hall ⟨n, h⟩

/-- The digits of a number are read back. -/
theorem mapM_hexValue?_toDigits (n : Nat) :
    ∃ digits, (Nat.toDigits 16 n).mapM hexValue? = some digits ∧
      digits.foldl (fun n d => n * 16 + d) 0 = n := by
  induction n using Nat.strongRecOn with
  | _ n ih =>
    by_cases hsmall : n < 16
    · refine ⟨[n], ?_, ?_⟩
      · rw [Nat.toDigits_of_lt_base hsmall]
        simp [hexValue?_digitChar hsmall]
      · simp
    · -- The last digit follows those of the quotient.
      obtain ⟨digits, hdigits, hvalue⟩ := ih (n / 16) (by omega)
      refine ⟨digits ++ [n % 16], ?_, ?_⟩
      · rw [Nat.toDigits_of_base_le (by decide) (Nat.not_lt.1 hsmall), List.mapM_append, hdigits]
        simp [hexValue?_digitChar (Nat.mod_lt n (by decide : 0 < 16))]
      · rw [List.foldl_append, hvalue]
        simp only [List.foldl_cons, List.foldl_nil]
        omega

/-- A character that has a value is neither a point nor a colon. -/
theorem ne_of_hexValue? {c : Char} (h : hexValue? c ≠ none) : c ≠ '.' ∧ c ≠ ':' := by
  constructor
  · rintro rfl
    exact h (by decide)
  · rintro rfl
    exact h (by decide)

/-- A whole number is written without zeros in front. -/
theorem hexDigits_one (n : Nat) : hexDigits 1 n = Nat.toDigits 16 n := by
  have hpos : 0 < (Nat.toDigits 16 n).length := Nat.length_toDigits_pos
  show List.replicate (1 - (Nat.toDigits 16 n).length) '0' ++ _ = _
  rw [Nat.sub_eq_zero_of_le hpos]
  rfl

end Text

/-- Values that are found one by one are found together. -/
theorem mapM_map_eq_some {α β γ : Type} {read : β → Option γ} {write : α → β} {value : α → γ}
    {l : List α} (h : ∀ a ∈ l, read (write a) = some (value a)) :
    (l.map write).mapM read = some (l.map value) := by
  induction l with
  | nil => rfl
  | cons a rest ih =>
    rw [List.map_cons, List.mapM_cons, h a List.mem_cons_self,
      ih fun b hb => h b (List.mem_cons_of_mem _ hb)]
    rfl

/-- If values are found of all elements, then of each. -/
theorem ne_none_of_mapM {α β : Type} {read : α → Option β} {l : List α} {values : List β}
    (h : l.mapM read = some values) : ∀ a ∈ l, read a ≠ none := by
  induction l generalizing values with
  | nil => simp
  | cons b rest ih =>
    intro a ha hnone
    rw [List.mapM_cons] at h
    rcases List.mem_cons.1 ha with rfl | ha
    · rw [hnone] at h
      cases h
    · cases hb : read b with
      | none =>
        rw [hb] at h
        cases h
      | some value =>
        cases hrest : rest.mapM read with
        | none =>
          rw [hb, hrest] at h
          cases h
        | some others => exact ih hrest a ha hnone

namespace Address

/-- Reading goes on exactly under the condition. -/
theorem guard_eq_ite (p : Prop) [Decidable p] :
    (guard p : Option Unit) = if p then some () else none := rfl

/-! ## Four octets -/

/-- An octet is read back from its decimal digits, among which there is no point. -/
theorem octet?_toString (b : UInt8) :
    octet? (toString b.toNat).toList = some b.toNat ∧ '.' ∉ (toString b.toNat).toList := by
  have hall : ∀ k : Fin 256,
      octet? (toString k.val).toList = some k.val ∧ '.' ∉ (toString k.val).toList := by
    decide +kernel
  exact hall ⟨b.toNat, b.toNat_lt⟩

/-- The octets of an address are read back. -/
theorem octets?_dotted (bits : BitVec 32) : octets? (dotted bits).toList = some bits.toNat := by
  have htext : (dotted bits).toList =
      ['.'].intercalate ((toOctets 4 bits.toNat).map fun b => (toString b.toNat).toList) := by
    rw [dotted, String.toList_intercalate, List.map_map]
    rfl
  have hparts : Text.parts '.' (dotted bits).toList =
      (toOctets 4 bits.toNat).map fun b => (toString b.toNat).toList := by
    rw [htext]
    refine Text.parts_intercalate ?_ ?_
    · intro hnil
      have := congrArg List.length hnil
      rw [List.length_map, length_toOctets] at this
      cases this
    · intro piece hpiece
      obtain ⟨b, -, rfl⟩ := List.mem_map.1 hpiece
      exact (octet?_toString b).2
  have hvalues : (Text.parts '.' (dotted bits).toList).mapM octet? =
      some ((toOctets 4 bits.toNat).map UInt8.toNat) := by
    rw [hparts]
    exact mapM_map_eq_some fun b _ => (octet?_toString b).1
  have hnumber : ((toOctets 4 bits.toNat).map UInt8.toNat).foldl (fun n v => n * 256 + v) 0 =
      bits.toNat := by
    have hlt := bits.isLt
    rw [List.foldl_map]
    show ofOctets (toOctets 4 bits.toNat) = bits.toNat
    rw [ofOctets_toOctets]
    omega
  unfold octets?
  rw [hvalues]
  simp [↓guard_eq_ite, hnumber]

/-- A text without a point is no four octets. -/
theorem octets?_of_not_mem {chars : List Char} (h : '.' ∉ chars) : octets? chars = none := by
  unfold octets?
  rw [Text.parts_of_not_mem h]
  cases hone : octet? chars <;> simp [↓guard_eq_ite, hone]

/-! ## Groups -/

/-- A group is read back from its digits. -/
theorem group?_hexDigits {g : Nat} (h : g < 65536) : group? (Text.hexDigits 1 g) = some g := by
  obtain ⟨digits, hdigits, hvalue⟩ := Text.mapM_hexValue?_toDigits g
  have hlength : (Nat.toDigits 16 g).length ≤ 4 :=
    (Nat.length_toDigits_le_iff (by decide) (by decide)).2 h
  unfold group?
  rw [Text.hexDigits_one, hdigits]
  simp [↓guard_eq_ite, Nat.toDigits_ne_nil, hlength, hvalue]

/-- The digits of a group are neither points nor colons, and there are some. -/
theorem hexDigits_plain (g : Nat) :
    Text.hexDigits 1 g ≠ [] ∧ '.' ∉ Text.hexDigits 1 g ∧ ':' ∉ Text.hexDigits 1 g := by
  obtain ⟨digits, hdigits, -⟩ := Text.mapM_hexValue?_toDigits g
  have hvalues := ne_none_of_mapM hdigits
  rw [Text.hexDigits_one]
  exact ⟨Nat.toDigits_ne_nil, fun h => (Text.ne_of_hexValue? (hvalues _ h)).1 rfl,
    fun h => (Text.ne_of_hexValue? (hvalues _ h)).2 rfl⟩

/-- The characters of joined groups. -/
theorem toList_joined (groups : List Nat) :
    (joined groups).toList = [':'].intercalate (groups.map (Text.hexDigits 1)) := by
  rw [joined, String.toList_intercalate, List.map_map]
  congr 1
  exact List.map_congr_left fun g _ => String.toList_ofList

/-- Two or more joined groups begin with the first of them and a colon. -/
theorem toList_joined_cons_cons (g h : Nat) (groups : List Nat) :
    (joined (g :: h :: groups)).toList =
      Text.hexDigits 1 g ++ ':' :: (joined (h :: groups)).toList := by
  rw [toList_joined, toList_joined, List.map_cons, List.map_cons, List.intercalate_cons_cons,
    List.append_assoc, List.singleton_append]

/-- Joined groups begin with a digit. -/
theorem head_joined (g : Nat) (groups : List Nat) :
    ∃ c rest, (joined (g :: groups)).toList = c :: rest ∧ c ≠ ':' := by
  obtain ⟨hne, -, hcolon⟩ := hexDigits_plain g
  cases hdigits : Text.hexDigits 1 g with
  | nil => exact absurd hdigits hne
  | cons c digits =>
    rw [hdigits] at hcolon
    refine ⟨c, ?_⟩
    cases groups with
    | nil =>
      refine ⟨digits, ?_, fun h => hcolon (h ▸ List.mem_cons_self)⟩
      rw [toList_joined, List.map_singleton, List.intercalate_singleton, hdigits]
    | cons h groups =>
      refine ⟨digits ++ ':' :: (joined (h :: groups)).toList, ?_,
        fun h => hcolon (h ▸ List.mem_cons_self)⟩
      rw [toList_joined_cons_cons, hdigits, List.cons_append]

/-- There is no point among joined groups. -/
theorem point_not_mem_joined (groups : List Nat) : '.' ∉ (joined groups).toList := by
  induction groups with
  | nil => simp [toList_joined]
  | cons g rest ih =>
    obtain ⟨-, hpoint, -⟩ := hexDigits_plain g
    cases rest with
    | nil =>
      rw [toList_joined, List.map_singleton, List.intercalate_singleton]
      exact hpoint
    | cons h rest =>
      rw [toList_joined_cons_cons, List.mem_append, List.mem_cons]
      rintro (hmem | hmem | hmem)
      · exact hpoint hmem
      · exact absurd hmem (by decide)
      · exact ih hmem

/-- Only no groups at all have an empty text. -/
theorem isEmpty_joined (groups : List Nat) : (joined groups).toList.isEmpty = groups.isEmpty := by
  cases groups with
  | nil => rfl
  | cons g rest =>
    obtain ⟨c, others, heq, -⟩ := head_joined g rest
    rw [heq]
    rfl

/-- The parts of joined groups are the groups. -/
theorem parts_joined {groups : List Nat} (hne : groups ≠ []) :
    Text.parts ':' (joined groups).toList = groups.map (Text.hexDigits 1) := by
  rw [toList_joined]
  refine Text.parts_intercalate (by simpa using hne) ?_
  intro piece hpiece
  obtain ⟨g, -, rfl⟩ := List.mem_map.1 hpiece
  exact (hexDigits_plain g).2.2

section

variable {groups : List Nat} (h : ∀ g ∈ groups, g < 65536)

include h

/-- Groups none of which may be four octets are read back. -/
theorem plainGroups?_joined : plainGroups? (joined groups).toList = some groups := by
  unfold plainGroups?
  rw [isEmpty_joined]
  cases groups with
  | nil => rfl
  | cons g rest =>
    rw [parts_joined (List.cons_ne_nil _ _), List.isEmpty_cons, if_neg Bool.false_ne_true,
      mapM_map_eq_some fun g hg => group?_hexDigits (h g hg), List.map_id']

/-- Groups of which the last may be four octets are read back from their digits. -/
theorem groupsOf?_map : groupsOf? (groups.map (Text.hexDigits 1)) = some groups := by
  induction groups with
  | nil => rfl
  | cons g rest ih =>
    have hg := group?_hexDigits (h g List.mem_cons_self)
    have hrest := ih fun g hg => h g (List.mem_cons_of_mem _ hg)
    cases rest with
    | nil =>
      rw [List.map_singleton, groupsOf?, if_neg (hexDigits_plain g).2.1, hg]
      rfl
    | cons k rest =>
      rw [List.map_cons] at hrest
      rw [List.map_cons, List.map_cons, groupsOf?, hg, hrest]
      rfl

/-- Groups of which the last may be four octets are read back. -/
theorem groups?_joined : groups? (joined groups).toList = some groups := by
  unfold groups?
  rw [isEmpty_joined]
  cases groups with
  | nil => rfl
  | cons g rest =>
    rw [List.isEmpty_cons, if_neg Bool.false_ne_true, parts_joined (List.cons_ne_nil _ _),
      groupsOf?_map h]

end

/-! ## The gap -/

/-- Characters that are no colons stand before the first pair of colons. -/
theorem cutGap_append {first : List Char} (rest : List Char) (h : ':' ∉ first) :
    cutGap (first ++ rest) = (cutGap rest).map fun cut => (first ++ cut.1, cut.2) := by
  induction first with
  | nil => cases h : cutGap rest <;> simp [h]
  | cons c first ih =>
    obtain ⟨hc, hfirst⟩ := not_or.1 (fun hmem => h (List.mem_cons.2 hmem))
    have hstep : cutGap (c :: (first ++ rest)) =
        (cutGap (first ++ rest)).map fun cut => (c :: cut.1, cut.2) := by
      rw [cutGap]
      rintro _ rfl
      exact absurd rfl hc
    rw [List.cons_append, hstep, ih hfirst]
    cases cutGap rest <;> rfl

/-- A colon that no other one follows is not the first pair. -/
theorem cutGap_colon {c : Char} (rest : List Char) (h : c ≠ ':') :
    cutGap (':' :: c :: rest) =
      (cutGap (c :: rest)).map fun cut => (':' :: cut.1, cut.2) := by
  rw [cutGap]
  rintro _ _ ⟨⟩
  exact h rfl

/-- There is no pair of colons in joined groups, so the first one is that of what follows. -/
theorem cutGap_joined_append (groups : List Nat) (rest : List Char) :
    cutGap ((joined groups).toList ++ rest) =
      (cutGap rest).map fun cut => ((joined groups).toList ++ cut.1, cut.2) := by
  induction groups with
  | nil =>
    cases h : cutGap rest <;> simp [toList_joined, h]
  | cons g others ih =>
    obtain ⟨-, -, hcolon⟩ := hexDigits_plain g
    cases others with
    | nil =>
      rw [toList_joined, List.map_singleton, List.intercalate_singleton, cutGap_append _ hcolon]
    | cons k others =>
      -- After the colon behind the first group comes a digit of the second one.
      obtain ⟨c, chars, hhead, hc⟩ := head_joined k others
      rw [toList_joined_cons_cons, List.append_assoc, cutGap_append _ hcolon, List.cons_append,
        hhead, List.cons_append, cutGap_colon _ hc, ← List.cons_append, ← hhead, ih]
      cases cutGap rest <;> simp

/-- The longest run of zeros is a run of zeros. -/
theorem longestGap_spec (groups : List Nat) :
    (longestGap groups).2 ≤
      ((groups.drop (longestGap groups).1).takeWhile (· = 0)).length := by
  unfold longestGap
  suffices hrun : ∀ (starts : List Nat) (best : Nat × Nat),
      best.2 ≤ ((groups.drop best.1).takeWhile (· = 0)).length →
      (starts.foldl (fun best start =>
          let run := ((groups.drop start).takeWhile (· = 0)).length
          if best.2 < run then (start, run) else best) best).2 ≤
        ((groups.drop (starts.foldl (fun best start =>
          let run := ((groups.drop start).takeWhile (· = 0)).length
          if best.2 < run then (start, run) else best) best).1).takeWhile (· = 0)).length by
    exact hrun _ (0, 0) (Nat.zero_le _)
  intro starts
  induction starts with
  | nil => exact fun best h => h
  | cons start starts ih =>
    intro best h
    rw [List.foldl_cons]
    refine ih _ ?_
    dsimp only
    split
    · exact Nat.le_refl _
    · exact h

/-- The groups in the longest run of zeros are zeros. -/
theorem take_longestGap (groups : List Nat) :
    (groups.drop (longestGap groups).1).take (longestGap groups).2 =
      List.replicate (longestGap groups).2 0 := by
  have hle := longestGap_spec groups
  generalize (longestGap groups).2 = run at hle ⊢
  generalize groups.drop (longestGap groups).1 = rest at hle ⊢
  obtain ⟨others, hsplit⟩ := List.takeWhile_prefix (l := rest) (fun g => decide (g = 0))
  have htake : rest.take run = (rest.takeWhile (· = 0)).take run := by
    calc rest.take run
      _ = (rest.takeWhile (· = 0) ++ others).take run := by rw [hsplit]
      _ = (rest.takeWhile (· = 0)).take run := List.take_append_of_le_length hle
  rw [htake, List.eq_replicate_iff]
  refine ⟨by rw [List.length_take, Nat.min_eq_left hle], ?_⟩
  intro g hg
  simpa using List.all_eq_true.1 List.all_takeWhile g (List.mem_of_mem_take hg)

/-- The longest run of zeros ends inside the groups, if there is one. -/
theorem longestGap_le {groups : List Nat} (h : 0 < (longestGap groups).2) :
    (longestGap groups).1 + (longestGap groups).2 ≤ groups.length := by
  have hle := longestGap_spec groups
  have hlength : ((groups.drop (longestGap groups).1).takeWhile (· = 0)).length ≤
      (groups.drop (longestGap groups).1).length := (List.takeWhile_sublist _).length_le
  rw [List.length_drop] at hlength
  omega

/-! ## Addresses -/

/-- The groups of an address. -/
theorem length_groups (bits : BitVec 128) : (groups bits).length = 8 := rfl

/-- The groups of an address have sixteen bits. -/
theorem lt_of_mem_groups {bits : BitVec 128} {g : Nat} (h : g ∈ groups bits) : g < 65536 := by
  obtain ⟨i, -, rfl⟩ := List.mem_map.1 h
  exact Nat.mod_lt _ (by decide)

/-- The first groups of a number are the number without the others. -/
theorem ofGroups_map_range (n k count : Nat) (h : count ≤ k) :
    ofGroups ((List.range count).map fun i => n / 65536 ^ (k - 1 - i) % 65536) =
      n / 65536 ^ (k - count) % 65536 ^ count := by
  induction count with
  | zero => simp [ofGroups, Nat.mod_one]
  | succ count ih =>
    have hstep : n / 65536 ^ (k - count) = n / 65536 ^ (k - (count + 1)) / 65536 := by
      rw [Nat.div_div_eq_div_mul, ← Nat.pow_succ]
      congr 2
      omega
    rw [List.range_succ, List.map_append, ofGroups, List.foldl_append]
    show ofGroups _ * 65536 + n / 65536 ^ (k - 1 - count) % 65536 = _
    rw [ih (by omega), hstep, Nat.pow_succ', Nat.mod_mul, Nat.sub_sub k 1 count, Nat.add_comm 1]
    omega

/-- The groups of an address are its number. -/
theorem ofGroups_groups (bits : BitVec 128) : ofGroups (groups bits) = bits.toNat := by
  have h := ofGroups_map_range bits.toNat 8 8 (Nat.le_refl 8)
  have hlt : bits.toNat < 65536 ^ 8 := bits.isLt
  rw [Nat.sub_self, Nat.pow_zero, Nat.div_one, Nat.mod_eq_of_lt hlt] at h
  exact h

/-- The text of an address of the sixth version: all groups, or those around the gap. -/
theorem compressed_cases (bits : BitVec 128) :
    compressed bits = joined (groups bits) ∨
      ∃ start run, 2 ≤ run ∧ start + run ≤ 8 ∧
        ((groups bits).drop start).take run = List.replicate run 0 ∧
        compressed bits = joined ((groups bits).take start) ++ "::" ++
          joined ((groups bits).drop (start + run)) := by
  have hunfold : compressed bits =
      if (longestGap (groups bits)).2 < 2 then joined (groups bits)
      else joined ((groups bits).take (longestGap (groups bits)).1) ++ "::" ++
        joined ((groups bits).drop ((longestGap (groups bits)).1 + (longestGap (groups bits)).2)) :=
    rfl
  by_cases hshort : (longestGap (groups bits)).2 < 2
  · rw [if_pos hshort] at hunfold
    exact .inl hunfold
  · rw [if_neg hshort] at hunfold
    exact .inr ⟨_, _, Nat.not_lt.1 hshort, longestGap_le (by omega), take_longestGap _, hunfold⟩

/-- All groups are read back when none is left out. -/
theorem eightGroups?_joined {all : List Nat} (hlength : all.length = 8)
    (hall : ∀ g ∈ all, g < 65536) : eightGroups? (joined all).toList = some all := by
  have hcut := cutGap_joined_append all []
  rw [List.append_nil] at hcut
  unfold eightGroups?
  rw [hcut, groups?_joined hall]
  simp [cutGap, ↓guard_eq_ite, hlength]

/-- All groups are read back when a run of zeros is left out. -/
theorem eightGroups?_gap {all : List Nat} {start run : Nat} (hlength : all.length = 8)
    (hall : ∀ g ∈ all, g < 65536) (hrun : 2 ≤ run) (hend : start + run ≤ 8)
    (hzeros : (all.drop start).take run = List.replicate run 0) :
    eightGroups? ((joined (all.take start)).toList ++ ':' :: ':' ::
      (joined (all.drop (start + run))).toList) = some all := by
  have hhigh := plainGroups?_joined fun g hg => hall g (List.mem_of_mem_take (i := start) hg)
  have hlow := groups?_joined fun g hg => hall g (List.mem_of_mem_drop (i := start + run) hg)
  have hcut := cutGap_joined_append (all.take start)
    (':' :: ':' :: (joined (all.drop (start + run))).toList)
  have hcount : 8 - (min start 8 + (8 - (start + run))) = run := by omega
  have hroom : min start 8 + (8 - (start + run)) ≤ 7 := by omega
  have hwhole : all.take start ++ (List.replicate run 0 ++ all.drop (start + run)) = all := by
    rw [← hzeros, ← List.drop_drop, List.take_append_drop, List.take_append_drop]
  unfold eightGroups?
  rw [hcut]
  simp [cutGap, ↓guard_eq_ite, hhigh, hlow, hlength, hcount, hroom, hwhole]

/-- The groups of an address are read back. -/
theorem eightGroups?_compressed (bits : BitVec 128) :
    eightGroups? (compressed bits).toList = some (groups bits) := by
  have hlength := length_groups bits
  have hall : ∀ g ∈ groups bits, g < 65536 := fun g => lt_of_mem_groups
  rcases compressed_cases bits with heq | ⟨start, run, hrun, hend, hzeros, heq⟩
  · rw [heq]
    exact eightGroups?_joined hlength hall
  · rw [heq, String.toList_append, String.toList_append, List.append_assoc]
    exact eightGroups?_gap hlength hall hrun hend hzeros

/-- There is no point in the text of an address of the sixth version. -/
theorem point_not_mem_compressed (bits : BitVec 128) : '.' ∉ (compressed bits).toList := by
  rcases compressed_cases bits with heq | ⟨start, run, -, -, -, heq⟩
  · rw [heq]
    exact point_not_mem_joined _
  · rw [heq, String.toList_append, String.toList_append, List.mem_append, List.mem_append]
    rintro ((hmem | hmem) | hmem)
    · exact point_not_mem_joined _ hmem
    · exact absurd hmem (by decide)
    · exact point_not_mem_joined _ hmem

/-- Reading the text of an address gives the address back. -/
theorem read?_text (a : Address) : read? a.text.toList = some a := by
  cases a with
  | v4 bits =>
    show read? (dotted bits).toList = _
    rw [read?, octets?_dotted]
    show some (v4 (BitVec.ofNat 32 bits.toNat)) = _
    rw [BitVec.ofNat_toNat, BitVec.setWidth_eq]
  | v6 bits =>
    show read? (compressed bits).toList = _
    rw [read?, octets?_of_not_mem (point_not_mem_compressed bits), eightGroups?_compressed]
    show some (v6 (BitVec.ofNat 128 (ofGroups (groups bits)))) = _
    rw [ofGroups_groups, BitVec.ofNat_toNat, BitVec.setWidth_eq]

/-- Addresses that are written alike are the same. -/
theorem text_inj {a b : Address} : a.text = b.text ↔ a = b := by
  constructor
  · intro h
    have ha := read?_text a
    rw [h, read?_text b] at ha
    exact (Option.some.inj ha).symm
  · rintro rfl
    rfl

end Address

end Concord
