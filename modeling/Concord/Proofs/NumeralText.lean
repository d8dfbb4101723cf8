import Concord.Binary64.Text
import Concord.Document.Reader
import Concord.Document.Printer
import Concord.Proofs.ShortestNumeral
import Mathlib.Data.List.DropRight
import Mathlib.Data.List.TakeDrop

/-!
# Numbers read from their texts

A whole number is written in its digits, and a real one as its shortest numeral with a point or with
a power of ten. Reading takes the text apart again: a whole part, places behind a point, and a power
of ten, up to a character that cannot belong to a number. Zeros that are left out or written in
addition move the point along, and the ratio that is rounded stays the same.

The main statements are `Document.readNumber_toString` and `Document.readNumber_writeReal`, that a
number is read from its text.
-/

namespace Concord

/-! ## Ratios and powers of ten -/

/-- A common factor does not change a rounded ratio. -/
theorem roundUnits_mul_mul_right (n d : Nat) {k : Nat} (hk : 0 < k) :
    roundUnits (n * k) (d * k) = roundUnits n d := by
  simp only [roundUnits, Nat.mul_div_mul_right _ _ hk]
  rw [Nat.mul_right_comm, divHalfEven_mul_mul_right _ _ hk]

/-- The written digits of a number followed by zeros. -/
theorem toDigits_mul_pow {n : Nat} (hn : n ≠ 0) (k : Nat) :
    Nat.toDigits 10 (n * 10 ^ k) = Nat.toDigits 10 n ++ List.replicate k '0' := by
  induction k with
  | zero => simp
  | succ k ih =>
    have hpos : 0 < n * 10 ^ k :=
      Nat.mul_pos (Nat.pos_iff_ne_zero.2 hn) (Nat.pow_pos (by decide))
    have hsucc := Nat.toDigits_append_toDigits (b := 10) (d := 0) (by decide) hpos (by decide)
    rw [Nat.add_zero, Nat.toDigits_zero, ih, List.append_assoc, ← List.replicate_succ'] at hsucc
    rw [hsucc, Nat.pow_succ, ← Nat.mul_assoc, Nat.mul_comm 10]

namespace Binary64

/-- Equal ratios have the same nearest number. -/
theorem ofRatio_eq_of_mul_eq (negative : Bool) {n d n' d' : Nat} (hd : 0 < d) (hd' : 0 < d')
    (h : n * d' = n' * d) : ofRatio negative n d = ofRatio negative n' d' := by
  have hround : roundUnits (n * unitsPerOne) d = roundUnits (n' * unitsPerOne) d' := by
    rw [← roundUnits_mul_mul_right _ _ hd', ← roundUnits_mul_mul_right (n' * _) _ hd,
      Nat.mul_right_comm, h, Nat.mul_right_comm, Nat.mul_comm d]
  simp only [ofRatio, ofUnitRatio, hround]

/-- The number of a decimal notation, with the power of ten as a ratio. -/
theorem ofDecimal_eq (negative : Bool) {n : Nat} (hn : n ≠ 0) (e : Int) :
    ofDecimal negative n e =
      if 310 < e + (Nat.toDigits 10 n).length then infinite negative
      else if e + (Nat.toDigits 10 n).length < -330 then signedZero negative
      else ofRatio negative (n * 10 ^ e.toNat) (10 ^ (-e).toNat) := by
  have hratio : (if 0 ≤ e then ofRatio negative (n * 10 ^ e.toNat) 1
      else ofRatio negative n (10 ^ (-e).toNat)) =
        ofRatio negative (n * 10 ^ e.toNat) (10 ^ (-e).toNat) := by
    split
    · rw [show (-e).toNat = 0 by omega, Nat.pow_zero]
    · rw [show e.toNat = 0 by omega, Nat.pow_zero, Nat.mul_one]
  simp only [ofDecimal, if_neg hn, hratio]

/-- Zeros at the end of the digits count like a power of ten. -/
theorem ofDecimal_mul_pow (negative : Bool) {n : Nat} (hn : n ≠ 0) (k : Nat) (e : Int) :
    ofDecimal negative (n * 10 ^ k) e = ofDecimal negative n (e + k) := by
  have hne : n * 10 ^ k ≠ 0 := Nat.mul_ne_zero hn (Nat.pos_iff_ne_zero.1 (Nat.pow_pos (by decide)))
  have htop : e + (Nat.toDigits 10 (n * 10 ^ k)).length =
      e + k + (Nat.toDigits 10 n).length := by
    rw [toDigits_mul_pow hn, List.length_append, List.length_replicate]
    omega
  have hratio : n * 10 ^ k * 10 ^ e.toNat * 10 ^ (-(e + k)).toNat =
      n * 10 ^ (e + k).toNat * 10 ^ (-e).toNat := by
    rw [Nat.mul_assoc, Nat.mul_assoc, Nat.mul_assoc, ← Nat.pow_add, ← Nat.pow_add, ← Nat.pow_add]
    congr 2
    omega
  rw [ofDecimal_eq negative hne, ofDecimal_eq negative hn, htop,
    ofRatio_eq_of_mul_eq negative (Nat.pow_pos (by decide)) (Nat.pow_pos (by decide)) hratio]

end Binary64

/-! ## Digits -/

/-- A digit is none of the characters that are not digits. -/
theorem ne_of_isDigit {c d : Char} (h : c.isDigit = true) (hd : d.isDigit = false) : c ≠ d := by
  rintro rfl
  rw [h] at hd
  cases hd

/-- The digits of a number are decimal digits. -/
theorem isDigit_toDigits (n : Nat) : ∀ c ∈ Nat.toDigits 10 n, c.isDigit = true :=
  fun _ hc => Nat.isDigit_of_mem_toDigits (by decide) (by decide) hc

/-- The digits of a number that is not zero do not begin with a zero. -/
theorem head_toDigits {n : Nat} (h : n ≠ 0) : (Nat.toDigits 10 n).head? ≠ some '0' := by
  induction n using Nat.base_induction 10 (by decide) with
  | single m hm =>
    rw [Nat.toDigits_of_lt_base hm]
    simpa using h
  | digit m k hk hm ih =>
    rw [← Nat.toDigits_append_toDigits (by decide) hm hk]
    cases hdigits : Nat.toDigits 10 m with
    | nil => exact absurd hdigits Nat.toDigits_ne_nil
    | cons c rest =>
      rw [hdigits] at ih
      exact ih (Nat.pos_iff_ne_zero.1 hm)

namespace Document

/-- The number of digits is that of the library. -/
theorem digitsValue_eq (digits : List Char) :
    digitsValue digits = Nat.ofDigitChars 10 digits 0 := by
  rw [digitsValue, Text.ofDigits, List.foldl_map, Nat.ofDigitChars_eq_foldl]

/-- The digits of a number have its value. -/
@[simp] theorem digitsValue_toDigits (n : Nat) : digitsValue (Nat.toDigits 10 n) = n := by
  rw [digitsValue_eq, Nat.ofDigitChars_ten_toDigits]

/-- Zeros in front of digits do not count. -/
theorem digitsValue_zeros_append (k : Nat) (digits : List Char) :
    digitsValue (List.replicate k '0' ++ digits) = digitsValue digits := by
  rw [digitsValue_eq, digitsValue_eq, Nat.ofDigitChars_append, Nat.ofDigitChars_replicate_zero,
    Nat.mul_zero]

/-- Zeros behind digits shift them. -/
theorem digitsValue_append_zeros (digits : List Char) (k : Nat) :
    digitsValue (digits ++ List.replicate k '0') = digitsValue digits * 10 ^ k := by
  rw [digitsValue_eq, digitsValue_eq, Nat.ofDigitChars_append, Nat.ofDigitChars_replicate_zero,
    Nat.mul_comm]

end Document

/-! ## Parts of a written number -/

namespace Document

/-- What may stand behind a value: nothing, a comma, or the end of a line. -/
inductive AtBreak : List Char → Prop
  | done : AtBreak []
  | comma (rest : List Char) : AtBreak (',' :: rest)
  | line (rest : List Char) : AtBreak ('\n' :: rest)

variable {rest : List Char}

/-- The text goes on with no digit. -/
def NoDigit (rest : List Char) : Prop := ∀ c ∈ rest.head?, c.isDigit = false

/-- No digit stands at a break. -/
theorem AtBreak.noDigit (h : AtBreak rest) : NoDigit rest := by
  intro c hc
  cases h with
  | done => cases hc
  | comma | line =>
    obtain rfl := Option.some.inj hc
    rfl

/-- Digits are taken up to the first character that is none. -/
theorem spanDigits_append {digits : List Char} (hdigits : ∀ c ∈ digits, c.isDigit = true)
    (hrest : NoDigit rest) : spanDigits (digits ++ rest) = (digits, rest) := by
  have hstop : rest.takeWhile Char.isDigit = [] ∧ rest.dropWhile Char.isDigit = rest := by
    cases rest with
    | nil => exact ⟨rfl, rfl⟩
    | cons c rest =>
      have hc : c.isDigit = false := hrest c rfl
      simp [hc]
  rw [spanDigits, List.span_eq_takeWhile_dropWhile, List.takeWhile_append_of_pos hdigits,
    List.dropWhile_append_of_pos hdigits, hstop.1, hstop.2, List.append_nil]

/-- Digits that may be the whole part of a number: a zero alone, or digits that begin with
another one. -/
def IsWhole (digits : List Char) : Prop :=
  digits ≠ [] ∧ (∀ c ∈ digits, c.isDigit = true) ∧ (digits = ['0'] ∨ digits.head? ≠ some '0')

/-- The written digits of a number are a whole part. -/
theorem isWhole_toDigits (n : Nat) : IsWhole (Nat.toDigits 10 n) := by
  refine ⟨Nat.toDigits_ne_nil, isDigit_toDigits n, ?_⟩
  by_cases hn : n = 0
  · left
    rw [hn, Nat.toDigits_zero]
  · exact .inr (head_toDigits hn)

/-- The whole part of a number ends where its digits end. -/
theorem readWhole_append {whole : List Char} (h : IsWhole whole) (hrest : NoDigit rest) :
    readWhole (whole ++ rest) = some (whole, rest) := by
  obtain ⟨hne, hdigits, rfl | hhead⟩ := h
  · rfl
  · cases whole with
    | nil => exact absurd rfl hne
    | cons c whole =>
      have hc : c ≠ '0' := fun h => hhead (congrArg some h)
      have hdigit : c.isDigit = true := hdigits c List.mem_cons_self
      have hspan := spanDigits_append hdigits hrest
      rw [List.cons_append] at hspan ⊢
      unfold readWhole
      split
      · rename_i heq
        exact absurd (List.cons.inj heq).1 hc
      · rename_i heq
        obtain ⟨rfl, rfl⟩ := List.cons.inj heq
        rw [if_pos hdigit, hspan]
      · rename_i heq
        cases heq

/-- Places follow a point. -/
theorem readPlaces_point {places : List Char} (hne : places ≠ [])
    (hdigits : ∀ c ∈ places, c.isDigit = true) (hrest : NoDigit rest) :
    readPlaces ('.' :: (places ++ rest)) = (places, rest) := by
  cases places with
  | nil => exact absurd rfl hne
  | cons c places =>
    have hspan := spanDigits_append hdigits hrest
    rw [List.cons_append] at hspan ⊢
    rw [readPlaces, if_pos (hdigits c List.mem_cons_self), hspan]

/-- There are no places without a point. -/
theorem readPlaces_of_head (h : rest.head? ≠ some '.') : readPlaces rest = ([], rest) := by
  unfold readPlaces
  split
  · exact absurd rfl h
  · rfl

/-- There is no power of ten without its letter. -/
theorem readPower_of_break (h : AtBreak rest) : readPower rest = (none, rest) := by
  cases h with
  | done => rfl
  | comma | line => rfl

/-- The sign in front of a power of ten. -/
def powerSign (negative : Bool) : Char := if negative then '-' else '+'

/-- A power of ten is a letter, a sign and digits. -/
theorem readPower_append (negative : Bool) {digits : List Char} (hne : digits ≠ [])
    (hdigits : ∀ c ∈ digits, c.isDigit = true) (hrest : NoDigit rest) :
    readPower ('e' :: powerSign negative :: (digits ++ rest)) =
      (some (if negative then -(digitsValue digits : Int) else digitsValue digits), rest) := by
  have hspan := spanDigits_append hdigits hrest
  cases digits with
  | nil => exact absurd rfl hne
  | cons c digits =>
    rw [List.cons_append] at hspan ⊢
    cases negative <;> simp [readPower, powerSign, hspan]

/-! ## Numbers -/

/-- The sign in front of a number. -/
def sign (negative : Bool) : List Char := if negative then ['-'] else []

/-- A whole number is its sign and its size. -/
theorem signed_natAbs (z : Int) :
    (if decide (z < 0) = true then -(z.natAbs : Int) else z.natAbs) = z := by
  by_cases hz : z < 0
  · rw [if_pos (decide_eq_true hz)]
    omega
  · rw [if_neg (Bool.eq_false_iff.1 (decide_eq_false hz))]
    omega

/-- A number is its sign and what is read behind it: a whole part, places and a power of ten. -/
theorem readNumber_of_parts (negative : Bool) {unsigned whole places behind after : List Char}
    {power : Option Int} (hwhole : readWhole unsigned = some (whole, behind))
    (hplaces : readPlaces behind = (places, after)) (hpower : readPower after = (power, rest)) :
    readNumber (sign negative ++ unsigned) =
      if places.isEmpty && power.isNone then
        if whole.length ≤ Text.maxDigits then
          .ok (int (if negative then -(digitsValue whole : Int) else digitsValue whole), rest)
        else .error (.tooManyDigits whole.length)
      else
        .ok (real (.ofDecimal negative (digitsValue (whole ++ places))
          (power.getD 0 - places.length)), rest) := by
  unfold readNumber
  split
  rename_i negative' unsigned' heq
  have hsigned : (negative', unsigned') = (negative, unsigned) := by
    rw [← heq]
    cases negative with
    | true => rfl
    | false =>
      split
      · -- A whole part does not begin with a sign.
        rename_i hunsigned
        rw [show unsigned = '-' :: _ from hunsigned] at hwhole
        cases hwhole
      · rfl
  obtain ⟨rfl, rfl⟩ := Prod.mk.inj hsigned
  rw [hwhole]
  dsimp only
  rw [hplaces]
  dsimp only
  rw [hpower]

/-! ## Numerals -/

/-- Digits that begin with none but a significant one. -/
structure IsSignificand (digits : List Char) : Prop where
  nonempty : digits ≠ []
  digit : ∀ c ∈ digits, c.isDigit = true
  head : digits.head? ≠ some '0'
  value : digitsValue digits ≠ 0

/-- The digits of a numeral end in zeros that are left out. -/
theorem exists_zeros (digits : List Char) : ∃ zeros,
    digits.rdropWhile (· == '0') ++ List.replicate zeros '0' = digits := by
  have hzeros : digits.rtakeWhile (· == '0') =
      List.replicate (digits.rtakeWhile (· == '0')).length '0' :=
    List.eq_replicate_iff.2 ⟨rfl, fun c hc =>
      beq_iff_eq.1 (List.mem_rtakeWhile_imp (p := (· == '0')) hc)⟩
  refine ⟨(digits.rtakeWhile (· == '0')).length, ?_⟩
  rw [← hzeros]
  exact List.rdropWhile_append_rtakeWhile ..

/-- The significant digits of a numeral, the position of its point, and the zeros left out. -/
theorem significant_spec {numeral : Numeral} (h : numeral.digits ≠ 0) :
    ∃ digits, ∃ zeros : Nat, IsSignificand digits ∧
      numeral.significant = (digits, numeral.exponent + digits.length + zeros) ∧
      digitsValue digits * 10 ^ zeros = numeral.digits := by
  obtain ⟨zeros, hwritten⟩ := exists_zeros (Nat.toDigits 10 numeral.digits)
  generalize hdigits : (Nat.toDigits 10 numeral.digits).rdropWhile (· == '0') = digits at hwritten
  have hvalue : digitsValue digits * 10 ^ zeros = numeral.digits := by
    rw [← digitsValue_append_zeros, hwritten, digitsValue_toDigits]
  have hne : digitsValue digits ≠ 0 := by
    intro hzero
    rw [hzero, Nat.zero_mul] at hvalue
    exact h hvalue.symm
  have hnonempty : digits ≠ [] := by
    rintro rfl
    exact hne rfl
  refine ⟨digits, zeros, ⟨hnonempty, ?_, ?_, hne⟩, ?_, hvalue⟩
  · intro c hc
    refine isDigit_toDigits numeral.digits c ?_
    rw [← hwritten]
    exact List.mem_append_left _ hc
  · have hhead := head_toDigits h
    rw [← hwritten] at hhead
    cases digits with
    | nil => exact absurd rfl hnonempty
    | cons c digits => exact hhead
  · have hlength : (Nat.toDigits 10 numeral.digits).length = digits.length + zeros := by
      rw [← hwritten, List.length_append, List.length_replicate]
    show ((Nat.toDigits 10 numeral.digits).rdropWhile (· == '0'),
      numeral.exponent + ((Nat.toDigits 10 numeral.digits).length : Int)) = _
    rw [hdigits, hlength, Int.natCast_add, Int.add_assoc]

variable {digits : List Char} {point : Int}

/-- Significant digits are a whole part, and remain one with digits behind them. -/
theorem IsSignificand.isWhole (h : IsSignificand digits) {more : List Char}
    (hmore : ∀ c ∈ more, c.isDigit = true) : IsWhole (digits ++ more) := by
  refine ⟨fun hnil => h.nonempty (List.append_eq_nil_iff.1 hnil).1, ?_, .inr ?_⟩
  · intro c hc
    exact (List.mem_append.1 hc).elim (h.digit c) (hmore c)
  · cases digits with
    | nil => exact absurd rfl h.nonempty
    | cons c digits => exact h.head

/-- The first significant digits are a whole part. -/
theorem IsSignificand.isWhole_take (h : IsSignificand digits) {count : Nat} (hcount : 0 < count) :
    IsWhole (digits.take count) := by
  obtain ⟨count, rfl⟩ : ∃ k, count = k + 1 := ⟨count - 1, by omega⟩
  cases digits with
  | nil => exact absurd rfl h.nonempty
  | cons c digits =>
    refine ⟨List.cons_ne_nil _ _, fun d hd => h.digit d (List.mem_of_mem_take hd), .inr ?_⟩
    exact h.head

/-- Zeros are digits. -/
theorem isDigit_zeros (count : Nat) : ∀ c ∈ List.replicate count '0', c.isDigit = true := by
  intro c hc
  rw [List.eq_of_mem_replicate hc]
  rfl

/-- No digit stands in front of a point or of a power of ten. -/
theorem noDigit_cons {c : Char} (h : c.isDigit = false) : NoDigit (c :: rest) := by
  intro d hd
  obtain rfl := Option.some.inj hd
  exact h

/-- A whole part with places behind a point is read as a real number. -/
theorem readNumber_of_point (negative : Bool) {whole places : List Char} (hwhole : IsWhole whole)
    (hne : places ≠ []) (hplaces : ∀ c ∈ places, c.isDigit = true) (hrest : AtBreak rest) :
    readNumber (sign negative ++ (whole ++ '.' :: (places ++ rest))) =
      .ok (real (.ofDecimal negative (digitsValue (whole ++ places)) (-places.length)), rest) := by
  rw [readNumber_of_parts negative (readWhole_append hwhole (noDigit_cons rfl))
    (readPlaces_point hne hplaces hrest.noDigit) (readPower_of_break hrest)]
  cases places with
  | nil => exact absurd rfl hne
  | cons c places =>
    rw [List.isEmpty_cons, Bool.false_and, if_neg Bool.false_ne_true, Option.getD_none,
      Int.zero_sub]

/-- A zero alone is a whole part. -/
theorem isWhole_zero : IsWhole ['0'] :=
  ⟨List.cons_ne_nil _ _, fun _ hc => (List.mem_singleton.1 hc) ▸ rfl, .inl rfl⟩

/-- Digits with a point in front of them are read as their number. -/
theorem readNumber_of_zeros (negative : Bool) (count : Nat) (h : IsSignificand digits)
    (hrest : AtBreak rest) :
    readNumber (sign negative ++
        ('0' :: '.' :: (List.replicate count '0' ++ digits ++ rest))) =
      .ok (real (.ofDecimal negative (digitsValue digits) (-count - digits.length)), rest) := by
  have hne : List.replicate count '0' ++ digits ≠ [] :=
    fun hnil => h.nonempty (List.append_eq_nil_iff.1 hnil).2
  have hread := readNumber_of_point negative isWhole_zero hne
    (fun c hc => (List.mem_append.1 hc).elim (isDigit_zeros _ c) (h.digit c)) hrest
  have hvalue : digitsValue (['0'] ++ (List.replicate count '0' ++ digits)) = digitsValue digits :=
    digitsValue_zeros_append (count + 1) digits
  rw [hvalue, List.length_append, List.length_replicate, Int.natCast_add, Int.neg_add] at hread
  exact hread

/-- Digits with a point between them are read as their number. -/
theorem readNumber_of_take (negative : Bool) {count : Nat} (hpos : 0 < count)
    (hcount : count < digits.length) (h : IsSignificand digits) (hrest : AtBreak rest) :
    readNumber (sign negative ++ (digits.take count ++ '.' :: (digits.drop count ++ rest))) =
      .ok (real (.ofDecimal negative (digitsValue digits) (count - digits.length)), rest) := by
  rw [readNumber_of_point negative (h.isWhole_take hpos)
    (fun hnil => Nat.not_le.2 hcount (List.drop_eq_nil_iff.1 hnil))
    (fun c hc => h.digit c (List.mem_of_mem_drop hc)) hrest, List.take_append_drop,
    List.length_drop, Int.natCast_sub (Nat.le_of_lt hcount), Int.neg_sub]

/-- Digits with zeros and a point behind them are read as their number. -/
theorem readNumber_of_whole (negative : Bool) (count : Nat) (h : IsSignificand digits)
    (hrest : AtBreak rest) :
    readNumber (sign negative ++ (digits ++ List.replicate count '0' ++ '.' :: (['0'] ++ rest))) =
      .ok (real (.ofDecimal negative (digitsValue digits) count), rest) := by
  rw [readNumber_of_point negative (h.isWhole (isDigit_zeros count)) (List.cons_ne_nil '0' [])
    (isDigit_zeros 1) hrest]
  have hvalue : digitsValue (digits ++ List.replicate count '0' ++ ['0']) =
      digitsValue digits * 10 ^ (count + 1) := by
    rw [← digitsValue_append_zeros, List.replicate_succ', List.append_assoc]
  rw [hvalue, Binary64.ofDecimal_mul_pow negative h.value]
  congr 4
  simp only [List.length_singleton]
  omega

/-- Digits with a point are read as their number. -/
theorem readNumber_positional (negative : Bool) (h : IsSignificand digits) (hrest : AtBreak rest) :
    readNumber (sign negative ++ (Numeral.positional digits point).toList ++ rest) =
      .ok (real (.ofDecimal negative (digitsValue digits) (point - digits.length)), rest) := by
  unfold Numeral.positional
  split
  · -- The point stands before the digits.
    rename_i hpoint
    have hread := readNumber_of_zeros negative (-point).toNat h hrest
    rw [show -((-point).toNat : Int) = point by omega] at hread
    simpa only [String.toList_ofList, List.append_assoc, List.cons_append] using hread
  · obtain ⟨count, rfl⟩ : ∃ count : Nat, point = count := ⟨point.toNat, by omega⟩
    rename_i hpos
    simp only [Int.toNat_natCast, String.toList_ofList]
    by_cases hcount : count < digits.length
    · -- The point stands between the digits.
      have hread := readNumber_of_take negative (by omega) hcount h hrest
      have hnil : (digits.drop count).isEmpty = false := by
        simpa using hcount
      rw [Nat.sub_eq_zero_of_le (Nat.le_of_lt hcount), List.replicate_zero, List.append_nil, hnil]
      simpa only [List.append_assoc, List.cons_append, Bool.false_eq_true, ↓reduceIte] using hread
    · -- The point stands behind the digits.
      have hread := readNumber_of_whole negative (count - digits.length) h hrest
      have hle : digits.length ≤ count := Nat.le_of_not_lt hcount
      rw [Int.natCast_sub hle] at hread
      rw [List.take_of_length_le hle, List.drop_eq_nil_of_le hle]
      simpa only [List.append_assoc, List.cons_append, List.isEmpty_nil, ↓reduceIte] using hread

/-- The two digits and more of a power of ten. -/
theorem zeroPadded_toList (width n : Nat) : (zeroPadded width n).toList =
    List.replicate (width - (Nat.toDigits 10 n).length) '0' ++ Nat.toDigits 10 n := by
  rw [zeroPadded, String.toList_ofList]

/-- A number in decimal digits with zeros in front is read as the number. -/
theorem zeroPadded_spec (width n : Nat) : (zeroPadded width n).toList ≠ [] ∧
    (∀ c ∈ (zeroPadded width n).toList, c.isDigit = true) ∧
      digitsValue (zeroPadded width n).toList = n := by
  rw [zeroPadded_toList]
  refine ⟨fun hnil => Nat.toDigits_ne_nil (List.append_eq_nil_iff.1 hnil).2, ?_, ?_⟩
  · intro c hc
    exact (List.mem_append.1 hc).elim (isDigit_zeros _ c) (isDigit_toDigits n c)
  · rw [digitsValue_zeros_append, digitsValue_toDigits]

/-- The places after the first digit, with their point, if there are any. -/
def pointed (places : List Char) : List Char := if places.isEmpty then [] else '.' :: places

/-- The places after the first digit are read up to the power of ten. -/
theorem readPlaces_pointed {places : List Char} (h : ∀ c ∈ places, c.isDigit = true)
    (behind : List Char) :
    readPlaces (pointed places ++ 'e' :: behind) = (places, 'e' :: behind) := by
  cases places with
  | nil => exact readPlaces_of_head (by simp [pointed])
  | cons c places => exact readPlaces_point (List.cons_ne_nil _ _) h (noDigit_cons rfl)

/-- No digit stands behind the whole part of a number with a power of ten. -/
theorem noDigit_pointed (places behind : List Char) :
    NoDigit (pointed places ++ 'e' :: behind) := by
  cases places with
  | nil => exact noDigit_cons rfl
  | cons c places => exact noDigit_cons rfl

/-- Digits with a power of ten are read as their number. -/
theorem readNumber_scientific (negative : Bool) (h : IsSignificand digits) (hrest : AtBreak rest) :
    readNumber (sign negative ++ (Numeral.scientific digits point).toList ++ rest) =
      .ok (real (.ofDecimal negative (digitsValue digits) (point - digits.length)), rest) := by
  obtain ⟨hne, hdigits, hvalue⟩ := zeroPadded_spec 2 (point - 1).natAbs
  have htext : (Numeral.scientific digits point).toList ++ rest =
      digits.take 1 ++ (pointed (digits.drop 1) ++ 'e' :: powerSign (point - 1 < 0) ::
        ((zeroPadded 2 (point - 1).natAbs).toList ++ rest)) := by
    have hletter : (if point - 1 < 0 then "e-" else "e+").toList =
        ['e', powerSign (point - 1 < 0)] := by
      unfold powerSign
      by_cases hsign : point - 1 < 0 <;> simp [hsign]
    simp only [Numeral.scientific, pointed, String.toList_append, String.toList_ofList, hletter,
      List.append_assoc, List.cons_append, List.nil_append]
  have hplaces : ∀ c ∈ digits.drop 1, c.isDigit = true :=
    fun c hc => h.digit c (List.mem_of_mem_drop hc)
  rw [List.append_assoc, htext, readNumber_of_parts negative
    (readWhole_append (h.isWhole_take Nat.one_pos) (noDigit_pointed _ _))
    (readPlaces_pointed hplaces _) (readPower_append _ hne hdigits hrest.noDigit)]
  have hlength : 0 < digits.length := List.length_pos_iff.2 h.nonempty
  have hexponent : (if decide (point - 1 < 0) = true then -((point - 1).natAbs : Int)
      else (point - 1).natAbs) - (digits.drop 1).length = point - digits.length := by
    rw [signed_natAbs, List.length_drop]
    omega
  rw [hvalue, List.take_append_drop, Option.isNone_some, Bool.and_false, if_neg (by decide),
    Option.getD_some, hexponent]

/-- The text of a numeral is read as its number. -/
theorem readNumber_text (negative : Bool) {numeral : Numeral} (h : numeral.digits ≠ 0)
    (hrest : AtBreak rest) :
    readNumber (sign negative ++ numeral.text.toList ++ rest) =
      .ok (real (.ofDecimal negative numeral.digits numeral.exponent), rest) := by
  obtain ⟨digits, zeros, hdigits, hsignificant, hvalue⟩ := significant_spec h
  have hnumber : Binary64.ofDecimal negative (digitsValue digits)
      (numeral.exponent + digits.length + zeros - digits.length) =
        .ofDecimal negative numeral.digits numeral.exponent := by
    rw [← hvalue, Binary64.ofDecimal_mul_pow negative hdigits.value]
    congr 1
    omega
  simp only [Numeral.text, hsignificant]
  split
  · rw [readNumber_positional negative hdigits hrest, hnumber]
  · rw [readNumber_scientific negative hdigits hrest, hnumber]

/-- A whole number is written as its sign and its digits. -/
theorem toString_toList (z : Int) :
    (toString z).toList = sign (z < 0) ++ Nat.toDigits 10 z.natAbs := by
  cases z with
  | ofNat n => exact Nat.toList_repr
  | negSucc n =>
    rw [show toString (Int.negSucc n) = "-" ++ (n + 1).repr from rfl, String.toList_append,
      Nat.toList_repr, decide_eq_true (Int.negSucc_lt_zero n), Int.natAbs_negSucc]
    rfl

/-- No places stand at a break. -/
theorem readPlaces_of_break (h : AtBreak rest) : readPlaces rest = ([], rest) := by
  cases h with
  | done => rfl
  | comma | line => rfl

/-- A whole number of not too many digits is read from its text. -/
theorem readNumber_toString {z : Int} (h : (Nat.toDigits 10 z.natAbs).length ≤ Text.maxDigits)
    (hrest : AtBreak rest) : readNumber ((toString z).toList ++ rest) = .ok (int z, rest) := by
  rw [toString_toList, List.append_assoc, readNumber_of_parts _
    (readWhole_append (isWhole_toDigits _) hrest.noDigit) (readPlaces_of_break hrest)
    (readPower_of_break hrest), digitsValue_toDigits, signed_natAbs, List.isEmpty_nil,
    Option.isNone_none, Bool.and_self, if_pos rfl, if_pos h]

/-- A finite number is written as its sign and a numeral. -/
theorem writeReal_finite (negative : Bool) (m : Magnitude) :
    writeReal (.finite negative m) =
      sign negative ++ (if m.units = 0 then "0.0" else m.shortest.text).toList := by
  show (Binary64.minus negative ++ _).toList = _
  rw [String.toList_append]
  cases negative <;> rfl

/-- Zero is read as the zero of its sign. -/
theorem readNumber_zero (negative : Bool) (hrest : AtBreak rest) :
    readNumber (sign negative ++ "0.0".toList ++ rest) =
      .ok (real (.signedZero negative), rest) := by
  rw [List.append_assoc]
  exact readNumber_of_point negative isWhole_zero (List.cons_ne_nil '0' []) (isDigit_zeros 1) hrest

/-- A finite number is read from its text. -/
theorem readNumber_writeReal (negative : Bool) (m : Magnitude) (hrest : AtBreak rest) :
    readNumber (writeReal (.finite negative m) ++ rest) =
      .ok (real (.finite negative m), rest) := by
  rw [writeReal_finite]
  by_cases hm : m.units = 0
  · obtain ⟨units, fits⟩ := m
    obtain rfl : units = 0 := hm
    exact readNumber_zero negative hrest
  · have hcontains := Magnitude.contains_shortest hm
    rw [if_neg hm, readNumber_text negative (Magnitude.digits_ne_zero hm hcontains) hrest,
      Magnitude.ofDecimal_of_contains negative hm hcontains]

end Document

end Concord
