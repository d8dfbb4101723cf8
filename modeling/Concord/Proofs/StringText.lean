import Concord.Document.Printer
import Concord.Document.Reader
import Concord.Proofs.AddressText
import Mathlib.Data.Nat.Init

/-!
# Strings read from their written forms

A string is written character by character, each as itself, as an escape of one letter, or as the
escapes of its one or two code units. An escaped code unit is only read when more text follows it,
which the closing quote sees to, and the first half of a pair takes the second half with it.

The main statement is `Document.readString_writeString`: a string is read from its written form.
-/

namespace Concord

/-! ## Hexadecimal digits -/

namespace Text

/-- One more hexadecimal digit. -/
theorem hexDigits_succ {width : Nat} (hwidth : 0 < width) (n : Nat) :
    hexDigits (width + 1) n = hexDigits width (n / 16) ++ [(n % 16).digitChar] := by
  by_cases hn : n < 16
  · have hzero : n / 16 = 0 := Nat.div_eq_of_lt hn
    obtain ⟨width, rfl⟩ : ∃ k, width = k + 1 := ⟨width - 1, by omega⟩
    simp only [hexDigits, hzero, Nat.toDigits_of_lt_base hn, Nat.toDigits_zero,
      List.length_singleton, Nat.add_sub_cancel, Nat.mod_eq_of_lt hn]
    rw [List.replicate_succ']
  · have hdigits := Nat.toDigits_of_base_le (b := 16) (by decide) (Nat.le_of_not_lt hn)
    simp only [hexDigits, hdigits, List.length_append, List.length_singleton,
      Nat.add_sub_add_right, List.append_assoc]

/-- The four hexadecimal digits of a code unit. -/
theorem hexDigits_four {n : Nat} (h : n < 0x10000) :
    hexDigits 4 n = [(n / 16 / 16 / 16).digitChar, (n / 16 / 16 % 16).digitChar,
      (n / 16 % 16).digitChar, (n % 16).digitChar] := by
  rw [hexDigits_succ (by decide), hexDigits_succ (by decide), hexDigits_succ (by decide),
    hexDigits_one, Nat.toDigits_of_lt_base (by omega)]
  rfl

end Text

namespace Document

/-! ## Strings -/

variable {n : Nat} {tail : List Char}

/-- The number of the four digits of a code unit. -/
theorem hexFour?_digits (h : n < 0x10000) :
    hexFour? (n / 16 / 16 / 16).digitChar (n / 16 / 16 % 16).digitChar (n / 16 % 16).digitChar
      (n % 16).digitChar = some n := by
  unfold hexFour?
  rw [Text.hexValue?_digitChar (by omega), Text.hexValue?_digitChar (by omega),
    Text.hexValue?_digitChar (by omega), Text.hexValue?_digitChar (by omega)]
  refine congrArg some ?_
  omega

/-- A code unit is read from its digits when more text follows. -/
theorem readUnit?_hexDigits (h : n < 0x10000) (htail : tail ≠ []) :
    readUnit? (Text.hexDigits 4 n ++ tail) = some (n, tail) := by
  cases tail with
  | nil => exact absurd rfl htail
  | cons c tail =>
    rw [Text.hexDigits_four h]
    show (hexFour? _ _ _ _).map _ = _
    rw [hexFour?_digits h]
    rfl

/-- A code unit that is no first half of a pair is read alone. -/
theorem readCodePoint_alone (h : n < 0x10000) (hhigh : isHighSurrogate n = false)
    (htail : tail ≠ []) : ∃ hlength,
      readCodePoint (Text.hexDigits 4 n ++ tail) = .ok (unitChar n, ⟨tail, hlength⟩) := by
  have hunit := readUnit?_hexDigits h htail
  unfold readCodePoint
  split
  · rename_i heq
    rw [hunit] at heq
    cases heq
  · rename_i unit rest heq
    obtain ⟨rfl, rfl⟩ := Prod.mk.inj (Option.some.inj (heq.symm.trans hunit))
    refine ⟨length_of_readUnit? heq, ?_⟩
    split
    · rw [hhigh]
      rfl
    · rfl

/-- The two halves of a pair are read together. -/
theorem readCodePoint_pair {low : Nat} (h : n < 0x10000) (hhigh : isHighSurrogate n = true)
    (hlow : low < 0x10000) (hlow' : isLowSurrogate low = true) (htail : tail ≠ []) : ∃ hlength,
      readCodePoint (Text.hexDigits 4 n ++ '\\' :: 'u' :: (Text.hexDigits 4 low ++ tail)) =
        .ok (Char.ofNat (joinSurrogates n low), ⟨tail, hlength⟩) := by
  have hunit : readUnit? (Text.hexDigits 4 n ++ '\\' :: 'u' :: (Text.hexDigits 4 low ++ tail)) =
      some (n, '\\' :: 'u' :: (Text.hexDigits 4 low ++ tail)) :=
    readUnit?_hexDigits h (List.cons_ne_nil _ _)
  have hsecond := readUnit?_hexDigits hlow htail
  have hlength : 5 ≤ (Text.hexDigits 4 low ++ tail).length := by
    have := List.length_pos_iff.2 htail
    rw [Text.hexDigits_four hlow, List.length_append]
    simp only [List.length_cons, List.length_nil]
    omega
  unfold readCodePoint
  split
  · rename_i heq
    rw [hunit] at heq
    cases heq
  · rename_i unit rest heq
    obtain ⟨rfl, rfl⟩ := Prod.mk.inj (Option.some.inj (heq.symm.trans hunit))
    split
    · rename_i second _ _ hrest _ _
      obtain rfl := (List.cons.inj (List.cons.inj hrest).2).2
      rw [if_pos (by rw [hhigh, decide_eq_true hlength]; rfl)]
      split
      · rename_i heq'
        rw [hsecond] at heq'
        cases heq'
      · rename_i low' after heq'
        obtain ⟨rfl, rfl⟩ := Prod.mk.inj (Option.some.inj (heq'.symm.trans hsecond))
        rw [if_pos hlow']
        refine ⟨Nat.lt_trans (length_of_readUnit? heq') ?_, rfl⟩
        simp only [List.length_append, List.length_cons]
        omega
    · rename_i hno
      exact (hno _ _ _ rfl HEq.rfl HEq.rfl).elim

/-- A string ends at its quote. -/
theorem readString_quote (opened : Nat) (rest : List Char) :
    readString opened ('"' :: rest) = .ok ([], rest) := by
  rw [readString]

/-- What is read after one more character of a string. -/
def withChar (c : Char) (reading : Reading (List Char × List Char)) :
    Reading (List Char × List Char) := reading.map fun (chars, rest) => (c :: chars, rest)

variable {opened : Nat} {c : Char}

/-- A character that needs no escape stands for itself. -/
theorem readString_plain (hquote : c ≠ '"') (hslash : c ≠ '\\') (hspace : ¬ c < ' ') :
    readString opened (c :: tail) = withChar c (readString opened tail) := by
  rw [readString.eq_def]
  split
  · rename_i heq
    cases heq
  · rename_i heq
    exact absurd (List.cons.inj heq).1 hquote
  · rename_i heq
    exact absurd (List.cons.inj heq).1 hslash
  · rename_i heq
    exact absurd (List.cons.inj heq).1 hslash
  · rename_i heq
    exact absurd (List.cons.inj heq).1 hslash
  · rename_i heq
    obtain ⟨rfl, rfl⟩ := List.cons.inj heq
    rw [if_neg hspace]
    cases readString opened tail <;> rfl

/-- An escape of one letter stands for its character. -/
theorem readString_escape {letter : Char} (h : escaped? letter = some c) :
    readString opened ('\\' :: letter :: tail) = withChar c (readString opened tail) := by
  rw [readString]
  · rw [h]
    show (readString opened tail >>= fun read => pure (c :: read.1, read.2)) = _
    cases readString opened tail <;> rfl
  · rintro rfl
    cases h

/-- An escaped code point stands for its character. -/
theorem readString_codePoint {digits : List Char}
    (h : ∃ hlength, readCodePoint digits = .ok (c, ⟨tail, hlength⟩)) :
    readString opened ('\\' :: 'u' :: digits) = withChar c (readString opened tail) := by
  obtain ⟨hlength, h⟩ := h
  rw [readString, h]
  show (readString opened tail >>= fun read => pure (c :: read.1, read.2)) = _
  cases readString opened tail <;> rfl

/-- The code point of a character is none of a surrogate. -/
theorem toNat_cases (c : Char) :
    c.toNat < 0xd800 ∨ 0xdfff < c.toNat ∧ c.toNat < 0x110000 := c.valid

/-- A character that is one code unit is read from the escape of it. -/
theorem readString_unitEscape (h : c.toNat < 0x10000) (htail : tail ≠ []) :
    readString opened (unitEscape c.toNat ++ tail) = withChar c (readString opened tail) := by
  have hvalid := toNat_cases c
  have hhigh : isHighSurrogate c.toNat = false := by
    simp only [isHighSurrogate, Bool.and_eq_false_iff, decide_eq_false_iff_not]
    omega
  have hlow : isLowSurrogate c.toNat = false := by
    simp only [isLowSurrogate, Bool.and_eq_false_iff, decide_eq_false_iff_not]
    omega
  have hchar : unitChar c.toNat = c := by
    rw [unitChar, hhigh, hlow, Bool.or_self, if_neg Bool.false_ne_true, Char.ofNat_toNat]
  obtain ⟨hlength, hread⟩ := readCodePoint_alone h hhigh htail
  rw [hchar] at hread
  exact readString_codePoint ⟨hlength, hread⟩

/-- The two code units of a character above the first plane. -/
theorem surrogates_spec (h : ¬ c.toNat < 0x10000) : ∃ high low,
    0xd800 + (c.toNat - 0x10000) / 0x400 = high ∧ 0xdc00 + (c.toNat - 0x10000) % 0x400 = low ∧
      isHighSurrogate high = true ∧ isLowSurrogate low = true ∧
        joinSurrogates high low = c.toNat := by
  have hvalid := toNat_cases c
  refine ⟨_, _, rfl, rfl, ?_, ?_, ?_⟩
  · simp only [isHighSurrogate, Bool.and_eq_true, decide_eq_true_eq]
    omega
  · simp only [isLowSurrogate, Bool.and_eq_true, decide_eq_true_eq]
    omega
  · unfold joinSurrogates
    omega

/-- A character that is two code units is read from the escapes of both. -/
theorem readString_unitEscapes (h : ¬ c.toNat < 0x10000) (htail : tail ≠ []) :
    readString opened (unitEscape (0xd800 + (c.toNat - 0x10000) / 0x400) ++
      unitEscape (0xdc00 + (c.toNat - 0x10000) % 0x400) ++ tail) =
        withChar c (readString opened tail) := by
  have hvalid := toNat_cases c
  obtain ⟨high, low, hhigh, hlow, hfirst, hsecond, hjoin⟩ := surrogates_spec h
  have hhigh' : high < 0x10000 := by omega
  have hlow' : low < 0x10000 := by omega
  obtain ⟨hlength, hread⟩ := readCodePoint_pair hhigh' hfirst hlow' hsecond htail
  rw [hjoin, Char.ofNat_toNat] at hread
  rw [hhigh, hlow, List.append_assoc]
  exact readString_codePoint ⟨hlength, hread⟩

/-- A character is read from its written form when more text follows. -/
theorem readString_writeChar (c : Char) (htail : tail ≠ []) :
    readString opened (writeChar c ++ tail) = withChar c (readString opened tail) := by
  have hletter {letter : Char} (h : escaped? letter = some c) :
      readString opened (['\\', letter] ++ tail) = withChar c (readString opened tail) :=
    readString_escape h
  unfold writeChar
  split <;> rename_i hquote
  · subst hquote
    exact readString_escape rfl
  split <;> rename_i hslash
  · subst hslash
    exact readString_escape rfl
  split <;> rename_i hline
  · exact hletter (hline ▸ rfl)
  split <;> rename_i hreturn
  · exact hletter (hreturn ▸ rfl)
  split <;> rename_i htab
  · exact hletter (htab ▸ rfl)
  split <;> rename_i hfeed
  · exact hletter (hfeed ▸ rfl)
  split <;> rename_i hback
  · exact hletter (hback ▸ rfl)
  split <;> rename_i hplain
  · exact readString_plain hquote hslash (Char.not_lt.2 hplain.1)
  split <;> rename_i hsmall
  · exact readString_unitEscape hsmall htail
  · exact readString_unitEscapes hsmall htail

/-- The characters of a string are read from their written form. -/
theorem readString_flatMap (chars rest : List Char) :
    readString opened (chars.flatMap writeChar ++ '"' :: rest) = .ok (chars, rest) := by
  induction chars with
  | nil => exact readString_quote opened rest
  | cons c chars ih =>
    rw [List.flatMap_cons, List.append_assoc, readString_writeChar c (by simp), ih]
    rfl

/-- A string is read from its written form behind the opening quote. -/
theorem readString_writeString (s : String) (rest : List Char) :
    ∃ behind, writeString s ++ rest = '"' :: behind ∧
      ∀ opened, readString opened behind = .ok (s.toList, rest) :=
  ⟨s.toList.flatMap writeChar ++ '"' :: rest, by simp [writeString],
    fun _ => readString_flatMap _ _⟩

end Document

end Concord
