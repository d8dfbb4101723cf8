import Concord.Proofs.AddressText
import Concord.Proofs.NumeralText
import Concord.Responder

/-!
# Endpoints and their texts

An endpoint is written as its host, a colon and its port. The text is cut again at its last colon,
since the host may hold colons and the port holds none, and the port is read from its digits
(`Text.integer?_toString`). The host may stand in brackets, which are taken off, so a host that has
none at its ends is read as it is, with them or without.

A host that was read has no brackets at its ends, and a port that was read has no more digits than
can be read again (`Text.length_of_integer?`). The main statement is `reads_back`.
-/

namespace Concord

namespace Text

/-! ## Trimming -/

/-- Neither the first nor the last character satisfies the test. -/
def Bare (test : Char → Bool) (chars : List Char) : Prop :=
  (∀ c ∈ chars.head?, test c = false) ∧ ∀ c ∈ chars.getLast?, test c = false

instance (test : Char → Bool) (chars : List Char) : Decidable (Bare test chars) :=
  decidable_of_iff (chars.head?.any test = false ∧ chars.getLast?.any test = false) (by
    cases hhead : chars.head? <;> cases hlast : chars.getLast? <;> simp [Bare, hhead, hlast])

variable {test : Char → Bool} {chars : List Char}

/-- Nothing is dropped in front of a character that does not satisfy the test. -/
theorem dropWhile_of_head (h : ∀ c ∈ chars.head?, test c = false) :
    chars.dropWhile test = chars := by
  cases chars with
  | nil => rfl
  | cons c rest => rw [List.dropWhile_cons_of_neg (by simp [h c rfl])]

/-- What stands around bare characters and satisfies the test is taken off. -/
theorem trimBoth_enclosed {before after : List Char} (hbefore : ∀ c ∈ before, test c = true)
    (hafter : ∀ c ∈ after, test c = true) (h : Bare test chars) :
    trimBoth test (before ++ chars ++ after) = chars := by
  unfold trimBoth
  rw [List.append_assoc, List.dropWhile_append_of_pos hbefore]
  cases chars with
  | nil =>
    rw [List.nil_append, List.dropWhile_eq_nil_iff.2 hafter]
    rfl
  | cons c rest =>
    have hfront : (c :: rest ++ after).dropWhile test = c :: rest ++ after :=
      dropWhile_of_head fun d hd => h.1 d hd
    have hlast : ∀ d ∈ (c :: rest).reverse.head?, test d = false := by
      rw [List.head?_reverse]
      exact h.2
    rw [hfront, List.reverse_append, List.dropWhile_append_of_pos (by simpa using hafter),
      dropWhile_of_head hlast, List.reverse_reverse]

/-- Nothing is taken off bare characters. -/
theorem trimBoth_of_bare (h : Bare test chars) : trimBoth test chars = chars := by
  have hnone : ∀ c ∈ ([] : List Char), test c = true := nofun
  simpa using trimBoth_enclosed hnone hnone h

/-- What is left after trimming is bare. -/
theorem bare_trimBoth (test : Char → Bool) (chars : List Char) :
    Bare test (trimBoth test chars) := by
  have hfirst (chars : List Char) : ∀ c ∈ (chars.dropWhile test).head?, test c = false := by
    intro c hc
    have hnot := List.head?_dropWhile_not test chars
    rw [Option.mem_def.1 hc] at hnot
    simpa using hnot
  have hlast : ∀ c ∈ (trimBoth test chars).getLast?, test c = false := by
    rw [trimBoth, List.getLast?_reverse]
    exact hfirst _
  refine ⟨?_, hlast⟩
  -- What is taken off the end leaves the first character, if it leaves any.
  intro c hc
  have hprefix : trimBoth test chars <+: chars.dropWhile test := by
    rw [trimBoth, ← List.reverse_suffix, List.reverse_reverse]
    exact List.dropWhile_suffix test
  obtain ⟨behind, hbehind⟩ := hprefix
  refine hfirst chars c ?_
  rw [← hbehind, List.head?_append, Option.mem_def.1 hc]
  rfl

/-! ## Whole numbers -/

/-- An ASCII digit has its usual value. -/
theorem digitValue?_of_isDigit {c : Char} (h : c.isDigit = true) :
    digitValue? c = some (c.toNat - '0'.toNat) := by
  have hrange : 48 ≤ c.toNat ∧ c.toNat ≤ 57 := Char.isDigit_iff_toNat.1 h
  have hfirst : (Range.mk 0x30 0x39).contains c = true := by
    simp only [Range.contains, Bool.and_eq_true, decide_eq_true_eq]
    exact hrange
  have hfound : digitRanges.find? (·.contains c) = some ⟨0x30, 0x39⟩ :=
    List.find?_cons_of_pos hfirst
  rw [digitValue?, hfound, Option.map_some]
  show some ((c.toNat - 48) % 10) = some (c.toNat - 48)
  rw [Nat.mod_eq_of_lt (by omega)]

/-- ASCII digits behind the first one have their usual values. -/
theorem digitsAfter_of_isDigit {digits : List Char} (h : ∀ c ∈ digits, c.isDigit = true) :
    digitsAfter digits = some (digits.map fun c => c.toNat - '0'.toNat) := by
  induction digits with
  | nil => rfl
  | cons c rest ih =>
    obtain ⟨hc, hrest⟩ := List.forall_mem_cons.1 h
    have hplain : digitsAfter (c :: rest) = (do
        let d ← digitValue? c
        let ds ← digitsAfter rest
        return d :: ds) :=
      digitsAfter.eq_3 c rest fun _ _ hline => absurd hline (ne_of_isDigit hc rfl)
    rw [hplain, digitValue?_of_isDigit hc, ih hrest]
    rfl

/-- ASCII digits that are not too many have the number that they stand for. -/
theorem natural?_of_isDigit {digits : List Char} (hne : digits ≠ [])
    (h : ∀ c ∈ digits, c.isDigit = true) (hlength : digits.length ≤ maxDigits) :
    natural? digits = some (Document.digitsValue digits) := by
  have hdigits : digitsOf? digits = some (digits.map fun c => c.toNat - '0'.toNat) := by
    cases digits with
    | nil => exact absurd rfl hne
    | cons c rest =>
      obtain ⟨hc, hrest⟩ := List.forall_mem_cons.1 h
      rw [digitsOf?, digitValue?_of_isDigit hc, digitsAfter_of_isDigit hrest]
      rfl
  rw [natural?, hdigits]
  simp [↓Address.guard_eq_ite, hlength, Document.digitsValue]

/-- A digit is no padding. -/
theorem isPadding_of_isDigit {c : Char} (h : c.isDigit = true) : isPadding c = false := by
  have hrange : 48 ≤ c.toNat ∧ c.toNat ≤ 57 := Char.isDigit_iff_toNat.1 h
  have hblank : isBlank c = false := by
    simp [isBlank, inRanges, blankRanges, Range.contains]
    omega
  rw [isPadding, hblank, Bool.false_and]

/-- A whole number of not too many digits is read from its text. -/
theorem integer?_toString {z : Int} (h : (Nat.toDigits 10 z.natAbs).length ≤ maxDigits) :
    integer? (toString z) = some z := by
  have hdigits := isDigit_toDigits z.natAbs
  have hnatural : natural? (Nat.toDigits 10 z.natAbs) = some z.natAbs := by
    rw [natural?_of_isDigit Nat.toDigits_ne_nil hdigits h, Document.digitsValue_toDigits]
  have hlast : ∀ c ∈ (toString z).toList.getLast?, isPadding c = false := by
    intro c hc
    rw [Document.toString_toList, List.getLast?_append_of_ne_nil _ Nat.toDigits_ne_nil] at hc
    exact isPadding_of_isDigit (hdigits c (List.mem_of_getLast? hc))
  by_cases hneg : z < 0
  · have htext : (toString z).toList = '-' :: Nat.toDigits 10 z.natAbs := by
      rw [Document.toString_toList, decide_eq_true hneg]
      rfl
    rw [htext] at hlast
    have hbare : Bare isPadding ('-' :: Nat.toDigits 10 z.natAbs) :=
      ⟨fun c hc => by cases hc; decide, hlast⟩
    rw [integer?, htext, trimBoth_of_bare hbare]
    simp only [hnatural]
    show some (-(z.natAbs : Int)) = some z
    congr 1
    omega
  · have htext : (toString z).toList = Nat.toDigits 10 z.natAbs := by
      rw [Document.toString_toList, decide_eq_false hneg]
      rfl
    rw [htext] at hlast
    have hbare : Bare isPadding (Nat.toDigits 10 z.natAbs) :=
      ⟨fun c hc => isPadding_of_isDigit (hdigits c (List.mem_of_head? hc)), hlast⟩
    rw [integer?, htext, trimBoth_of_bare hbare]
    -- The text begins with a digit, which is no sign.
    split
    · rename_i heq
      cases hdigits '-' (heq ▸ List.mem_cons_self)
    · rename_i heq
      cases hdigits '+' (heq ▸ List.mem_cons_self)
    · rw [hnatural]
      show some (z.natAbs : Int) = some z
      congr 1
      omega

/-- The values of digits are below ten. -/
theorem lt_of_digitValue? {c : Char} {d : Nat} (h : digitValue? c = some d) : d < 10 := by
  obtain ⟨r, -, rfl⟩ := Option.map_eq_some_iff.1 h
  exact Nat.mod_lt _ (by decide)

/-- The values of the digits behind the first one are below ten. -/
theorem lt_of_digitsAfter {chars : List Char} {digits : List Nat}
    (h : digitsAfter chars = some digits) : ∀ d ∈ digits, d < 10 := by
  induction chars using digitsAfter.induct generalizing digits with
  | case1 =>
    cases h
    exact nofun
  | case2 c rest ih =>
    rw [digitsAfter] at h
    obtain ⟨first, hfirst, h⟩ := Option.bind_eq_some_iff.1 h
    obtain ⟨others, hothers, h⟩ := Option.bind_eq_some_iff.1 h
    cases h
    exact List.forall_mem_cons.2 ⟨lt_of_digitValue? hfirst, ih hothers⟩
  | case3 c rest hline ih =>
    rw [digitsAfter.eq_3 c rest hline] at h
    obtain ⟨first, hfirst, h⟩ := Option.bind_eq_some_iff.1 h
    obtain ⟨others, hothers, h⟩ := Option.bind_eq_some_iff.1 h
    cases h
    exact List.forall_mem_cons.2 ⟨lt_of_digitValue? hfirst, ih hothers⟩

/-- Digits stand for a number below the power of ten of their count. -/
theorem ofDigits_lt {digits : List Nat} (h : ∀ d ∈ digits, d < 10) :
    ofDigits digits < 10 ^ digits.length := by
  induction digits using List.reverseRecOn with
  | nil => exact Nat.one_pos
  | append_singleton digits d ih =>
    have hdigits := ih fun e he => h e (List.mem_append_left _ he)
    have hd := h d (by simp)
    have hvalue : ofDigits (digits ++ [d]) = 10 * ofDigits digits + d := by
      simp [ofDigits]
    rw [hvalue, List.length_append, List.length_singleton, Nat.pow_succ]
    omega

/-- A natural number that is read has no more digits than can be read. -/
theorem length_of_natural? {chars : List Char} {n : Nat} (h : natural? chars = some n) :
    (Nat.toDigits 10 n).length ≤ maxDigits := by
  obtain ⟨digits, hdigits, h⟩ := Option.bind_eq_some_iff.1 h
  obtain ⟨_, hlength, h⟩ := Option.bind_eq_some_iff.1 h
  obtain rfl : ofDigits digits = n := Option.some.inj h
  have hmax : digits.length ≤ maxDigits := by
    by_contra hnot
    rw [Address.guard_eq_ite, if_neg hnot] at hlength
    cases hlength
  have hbelow : ∀ d ∈ digits, d < 10 := by
    cases chars with
    | nil => cases hdigits
    | cons c rest =>
      rw [digitsOf?] at hdigits
      obtain ⟨first, hfirst, hdigits⟩ := Option.bind_eq_some_iff.1 hdigits
      obtain ⟨others, hothers, hdigits⟩ := Option.bind_eq_some_iff.1 hdigits
      cases hdigits
      exact List.forall_mem_cons.2 ⟨lt_of_digitValue? hfirst, lt_of_digitsAfter hothers⟩
  refine (Nat.length_toDigits_le_iff (by decide) (by decide)).2 ?_
  exact Nat.lt_of_lt_of_le (ofDigits_lt hbelow) (Nat.pow_le_pow_right (by decide) hmax)

/-- A whole number that is read has no more digits than can be read. -/
theorem length_of_integer? {s : String} {z : Int} (h : integer? s = some z) :
    (Nat.toDigits 10 z.natAbs).length ≤ maxDigits := by
  -- Each case reads a natural number and gives it a sign.
  unfold integer? at h
  split at h <;>
  · obtain ⟨value, hvalue, rfl⟩ := Option.map_eq_some_iff.1 h
    obtain ⟨n, hn, hcast⟩ := Option.bind_eq_some_iff.1 hvalue
    obtain rfl : (n : Int) = value := Option.some.inj hcast
    simpa using length_of_natural? hn

end Text

namespace Endpoint

/-! ## Hosts -/

/-- The host has no bracket at its ends. -/
def Unbracketed (host : String) : Prop := Text.Bare isBracket host.toList

instance (host : String) : Decidable (Unbracketed host) :=
  inferInstanceAs (Decidable (Text.Bare isBracket host.toList))

/-- A host without brackets at its ends is read with brackets around it and without; when there is
none, every address is meant. -/
theorem hostOf_enclosed {host : String} (h : Unbracketed host) :
    hostOf host.toList = (if host = "" then anyHost else host) ∧
      hostOf ('[' :: host.toList ++ [']']) = if host = "" then anyHost else host := by
  have hplain : Text.trimBoth isBracket host.toList = host.toList := Text.trimBoth_of_bare h
  have hinside : Text.trimBoth isBracket (['['] ++ host.toList ++ [']']) = host.toList :=
    Text.trimBoth_enclosed (List.forall_mem_singleton.2 rfl) (List.forall_mem_singleton.2 rfl) h
  have hread (chars : List Char) (htrim : Text.trimBoth isBracket chars = host.toList) :
      hostOf chars = if host = "" then anyHost else host := by
    unfold hostOf
    rw [htrim]
    split
    · rename_i hempty
      rw [if_pos (String.toList_eq_nil_iff.1 hempty)]
    · rename_i hset
      rw [if_neg fun hempty => hset (String.toList_eq_nil_iff.2 hempty), String.ofList_toList]
  exact ⟨hread _ hplain, hread _ hinside⟩

/-- A host that is read is not empty and has no brackets at its ends. -/
theorem unbracketed_hostOf (chars : List Char) :
    hostOf chars ≠ "" ∧ Unbracketed (hostOf chars) := by
  have hbare := Text.bare_trimBoth isBracket chars
  unfold hostOf
  split
  · exact ⟨by decide, by decide +kernel⟩
  · rename_i hset
    refine ⟨fun hempty => hset ?_, ?_⟩
    · rwa [String.ofList_eq_empty_iff] at hempty
    · rw [Unbracketed, String.toList_ofList]
      exact hbare

/-! ## Endpoints -/

/-- No colon stands in the text of a whole number. -/
theorem colon_not_mem_toString (z : Int) : ':' ∉ (toString z).toList := by
  rw [Document.toString_toList, List.mem_append, not_or]
  refine ⟨?_, fun hmem => ?_⟩
  · cases decide (z < 0) <;> decide
  · cases isDigit_toDigits z.natAbs ':' hmem

/-- A text that ends with a colon and a port is taken apart there. -/
theorem read?_of_port {text : String} {host : List Char} {port : Int} (defaultPort : Int)
    (htext : text.toList = host ++ ':' :: (toString port).toList)
    (h : (Nat.toDigits 10 port.natAbs).length ≤ Text.maxDigits) :
    read? text defaultPort = .ok ⟨hostOf host, port⟩ := by
  have hcut : Text.cutLast ':' text.toList = some (host, (toString port).toList) :=
    Text.cutLast_eq_some.2 ⟨htext, colon_not_mem_toString port⟩
  rw [read?, hcut]
  simp only [String.ofList_toList, Text.integer?_toString h]

/-- A host without brackets at its ends and a port are read as they were written, with brackets
around the host and without. Without a host every address is meant. -/
theorem read?_written {host : String} {port : Int} (defaultPort : Int) (hhost : Unbracketed host)
    (hport : (Nat.toDigits 10 port.natAbs).length ≤ Text.maxDigits) :
    read? (host ++ ":" ++ toString port) defaultPort =
        .ok ⟨if host = "" then anyHost else host, port⟩ ∧
      read? ("[" ++ host ++ "]:" ++ toString port) defaultPort =
        .ok ⟨if host = "" then anyHost else host, port⟩ := by
  obtain ⟨hplain, hinside⟩ := hostOf_enclosed hhost
  have htext : (host ++ ":" ++ toString port).toList =
      host.toList ++ ':' :: (toString port).toList := by simp
  have htext' : ("[" ++ host ++ "]:" ++ toString port).toList =
      ('[' :: host.toList ++ [']']) ++ ':' :: (toString port).toList := by simp
  rw [read?_of_port defaultPort htext hport, read?_of_port defaultPort htext' hport, hplain,
    hinside]
  exact ⟨rfl, rfl⟩

/-- What was read of a text with a colon has a host without brackets at its ends, and a port that
can be read again. -/
theorem parts_of_read? {text : String} {defaultPort : Int} {e : Endpoint}
    (hcolon : ':' ∈ text.toList) (h : read? text defaultPort = .ok e) :
    e.host ≠ "" ∧ Unbracketed e.host ∧
      (Nat.toDigits 10 e.port.natAbs).length ≤ Text.maxDigits := by
  unfold read? at h
  split at h
  · rename_i hnone
    exact absurd hcolon (Text.cutLast_eq_none.1 hnone)
  · rename_i host port _
    split at h
    · rename_i n hn
      cases h
      obtain ⟨hset, hbare⟩ := unbracketed_hostOf host
      exact ⟨hset, hbare, Text.length_of_integer? hn⟩
    · cases h

/-- A host that is not empty and has no brackets at its ends and a port that is not too long are
read as they were written, with brackets around the host and without; without a host every address
is meant. A text without a colon is a host, with the standard port, and any other text is an
endpoint or refused. The endpoint of a text with a colon is read again from the text that its
responder reports. -/
theorem reads_back :
    (∀ (host : String) (port defaultPort : Int), host ≠ "" → Unbracketed host →
      (Nat.toDigits 10 port.natAbs).length ≤ Text.maxDigits →
      read? (host ++ ":" ++ toString port) defaultPort = .ok ⟨host, port⟩ ∧
        read? ("[" ++ host ++ "]:" ++ toString port) defaultPort = .ok ⟨host, port⟩) ∧
    (∀ port defaultPort : Int, (Nat.toDigits 10 port.natAbs).length ≤ Text.maxDigits →
      read? (":" ++ toString port) defaultPort = .ok ⟨"0.0.0.0", port⟩ ∧
        read? ("[]:" ++ toString port) defaultPort = .ok ⟨"0.0.0.0", port⟩) ∧
    (∀ (text : String) (defaultPort : Int), ':' ∉ text.toList →
      read? text defaultPort = .ok ⟨text, defaultPort⟩) ∧
    (∀ (text : String) (defaultPort : Int), (∃ e, read? text defaultPort = .ok e) ∨
      read? text defaultPort = .error (.listen text)) ∧
    ∀ (text : String) (defaultPort : Int) (r : Responder), ':' ∈ text.toList →
      read? text defaultPort = .ok r.endpoint →
      ∃ reported, r.report.get? "listen" = some (.text reported) ∧
        ∀ otherPort, read? reported otherPort = .ok r.endpoint := by
  refine ⟨?_, ?_, fun text defaultPort => read?_host defaultPort, ?_, ?_⟩
  · intro host port defaultPort hset hhost hport
    simpa only [if_neg hset] using read?_written defaultPort hhost hport
  · intro port defaultPort hport
    have hempty : Unbracketed "" := by decide
    have hwritten := read?_written defaultPort hempty hport
    exact hwritten
  · intro text defaultPort
    unfold read?
    split
    · exact .inl ⟨_, rfl⟩
    · split
      · exact .inl ⟨_, rfl⟩
      · exact .inr rfl
  · intro text defaultPort r hcolon hread
    obtain ⟨hset, hhost, hport⟩ := parts_of_read? hcolon hread
    refine ⟨r.endpoint.text, rfl, fun otherPort => ?_⟩
    have hwritten := (read?_written otherPort hhost hport).1
    rwa [if_neg hset] at hwritten

/-- An address of the sixth version and a negative port are read with brackets around the address
and without, and so are those of the responder that is made of the text. -/
theorem reads_back_sixthVersion :
    read? "::1:-5" 123 = .ok ⟨"::1", -5⟩ ∧ read? "[::1]:-5" 123 = .ok ⟨"::1", -5⟩ ∧
      ∃ reported, (Responder.mk ⟨"::1", -5⟩ {} false 0 0 0 0).report.get? "listen" =
          some (.text reported) ∧
        ∀ otherPort, read? reported otherPort = .ok ⟨"::1", -5⟩ := by
  obtain ⟨hwritten, -, -, -, hreported⟩ := reads_back
  obtain ⟨hplain, hinside⟩ := hwritten "::1" (-5) 123 (by decide) (by decide +kernel)
    (by decide +kernel)
  exact ⟨hplain, hinside, hreported "[::1]:-5" 123 ⟨⟨"::1", -5⟩, {}, false, 0, 0, 0, 0⟩
    (by decide +kernel) hinside⟩

end Endpoint

end Concord
