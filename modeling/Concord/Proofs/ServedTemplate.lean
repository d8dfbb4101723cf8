import Concord.Proofs.Answering
import Concord.Proofs.CycleOutcome

/-!
# What a template says to clients

The root delay of a template is a sum of what the reference said and of what was measured, and the
measured delay may have either sign; the root dispersion is a sum, too. Their fields have sixteen
binary places behind the point and sixteen bits in front of it, and no sign. Nothing brings the sums
into that range. A sum of `65536` or more, or of `-1` or less, leaves every request without an
answer; one between `-1` and zero is written like its absolute value (`fixedPoint_abs`).

The main statement is `served_iff`: when a template that was made from a reference has an answer,
and when the two fields of the answer say what the template says.
-/

namespace Concord

namespace Binary64

/-- The number is above `-1` and below `65536`. -/
def FitsShort (x : Binary64) : Prop :=
  ∃ units, x.units? = some units ∧ -(unitsPerOne : Int) < units ∧
    units < (65536 * unitsPerOne : Nat)

/-- The number is above `-1 / 65536` and below `65536`. -/
def Servable (x : Binary64) : Prop :=
  ∃ units, x.units? = some units ∧ -(unitsPerOne : Int) < units * 65536 ∧
    units < (65536 * unitsPerOne : Nat)

/-- A field with sixteen binary places says what a number is, up to its last place. -/
def SaidBy (x : Binary64) (field : Nat) : Prop :=
  ∃ units, x.units? = some units ∧ (field * unitsPerOne : Int) < units * 65536 + unitsPerOne ∧
    units * 65536 < (field * unitsPerOne + unitsPerOne : Int)

instance (x : Binary64) : Decidable x.FitsShort :=
  decidable_of_iff
    (x.units?.any (fun units : Int =>
      -(unitsPerOne : Int) < units ∧ units < (65536 * unitsPerOne : Nat)) = true)
    (by
      rw [FitsShort, Option.any_eq_true]
      simp only [decide_eq_true_eq])

instance (x : Binary64) : Decidable x.Servable :=
  decidable_of_iff
    (x.units?.any (fun units : Int =>
      -(unitsPerOne : Int) < units * 65536 ∧ units < (65536 * unitsPerOne : Nat)) = true)
    (by
      rw [Servable, Option.any_eq_true]
      simp only [decide_eq_true_eq])

/-- What can be served has room. -/
theorem Servable.fitsShort {x : Binary64} (h : x.Servable) : x.FitsShort := by
  obtain ⟨units, hunits, hlow, hhigh⟩ := h
  exact ⟨units, hunits, by omega, hhigh⟩

end Binary64

/-! ## Short numbers on the wire -/

namespace Magnitude

/-- The whole part and the places of a number are the number without its later places. -/
theorem whole_mul_add_places (m : Magnitude) (bits : Nat) :
    m.whole * 2 ^ bits + m.places bits = m.units * 2 ^ bits / unitsPerOne := by
  have hsplit : m.units * 2 ^ bits =
      m.units % unitsPerOne * 2 ^ bits + unitsPerOne * (m.units / unitsPerOne * 2 ^ bits) := by
    rw [← Nat.mul_assoc, ← Nat.add_mul, Nat.mod_add_div]
  rw [hsplit, Nat.add_mul_div_left _ _ unitsPerOne_pos, whole, places, Nat.add_comm]

/-- The places are fewer than one. -/
theorem places_lt (m : Magnitude) (bits : Nat) : m.places bits < 2 ^ bits := by
  refine Nat.div_lt_of_lt_mul ?_
  exact Nat.mul_lt_mul_of_pos_right (Nat.mod_lt _ unitsPerOne_pos) (Nat.two_pow_pos bits)

end Magnitude

namespace Packet

/-- A number above `-1` is written like its absolute value. -/
theorem fixedPoint_abs {x : Binary64} (h : x.FitsShort) :
    fixedPoint 16 x = fixedPoint 16 x.abs ∧ x.abs.Within 65536 := by
  obtain ⟨units, hunits, hlow, hhigh⟩ := h
  cases x with
  | nan | infinite => cases hunits
  | finite negative m =>
    obtain rfl := Option.some.inj hunits
    cases negative with
    | false => exact ⟨rfl, _, rfl, Int.natCast_nonneg _, hhigh⟩
    | true =>
      have hsmall : m.units < unitsPerOne := by
        rw [Binary64.signedUnits, if_pos rfl] at hlow
        omega
      have hwhole : m.whole = 0 := Nat.div_eq_of_lt hsmall
      refine ⟨?_, _, rfl, Int.natCast_nonneg _, ?_⟩
      · simp [fixedPoint, Binary64.abs, Binary64.signedUnits, hwhole]
      · show ((m.units : Nat) : Int) < _
        omega

/-- A number that has room in a field of four octets is above `-1` and below `65536`. -/
theorem fitsShort_of_fixedPoint {x : Binary64} {value : Int} (h : fixedPoint 16 x = .ok value)
    (hlow : 0 ≤ value) (hhigh : value < 256 ^ 4) : x.FitsShort := by
  cases x with
  | nan | infinite => cases h
  | finite negative m =>
    have hvalue := Except.ok.inj h
    have hplaces := m.places_lt 16
    have hunits : m.units < (m.whole + 1) * unitsPerOne := by
      rw [Nat.mul_comm]
      exact Nat.lt_mul_div_succ _ unitsPerOne_pos
    refine ⟨_, rfl, ?_⟩
    cases negative with
    | false =>
      have hwhole : m.whole + 1 ≤ 65536 := by
        simp only [Binary64.signedUnits, Bool.false_eq_true, if_false] at hvalue
        omega
      have hbound := Nat.mul_le_mul_right unitsPerOne hwhole
      simp only [Binary64.signedUnits, Bool.false_eq_true, if_false]
      have hpos := unitsPerOne_pos
      omega
    | true =>
      have hwhole : m.whole = 0 := by
        simp only [Binary64.signedUnits, if_true] at hvalue
        omega
      rw [hwhole, Nat.zero_add, Nat.one_mul] at hunits
      simp only [Binary64.signedUnits, if_true]
      omega

/-- The field of a number that has room says the number when it is not too far below zero. -/
theorem saidBy_iff {x : Binary64} {value : Nat} (h : fixedPoint 16 x = .ok value)
    (hfits : x.FitsShort) : x.SaidBy value ↔ x.Servable := by
  have habs := (fixedPoint_abs hfits).1
  rw [h] at habs
  obtain ⟨units, hunits, hlow, hhigh⟩ := hfits
  unfold Binary64.SaidBy Binary64.Servable
  cases x with
  | nan | infinite => cases hunits
  | finite negative m =>
    obtain rfl := Option.some.inj hunits
    -- The field is the absolute value in places, and what is cut off is less than one place.
    have hvalue : value = m.units * 2 ^ 16 / unitsPerOne := by
      rw [← m.whole_mul_add_places]
      simp only [fixedPoint, Binary64.abs, Binary64.signedUnits, Bool.false_eq_true, if_false,
        Except.ok.injEq] at habs
      omega
    have hle := Nat.div_mul_le_self (m.units * 2 ^ 16) unitsPerOne
    have hlt := Nat.lt_mul_div_succ (m.units * 2 ^ 16) unitsPerOne_pos
    rw [← hvalue] at hle hlt
    rw [Nat.mul_succ, Nat.mul_comm unitsPerOne] at hlt
    have hplace : value * unitsPerOne = 0 ∨ unitsPerOne ≤ value * unitsPerOne := by
      cases value with
      | zero => exact .inl (Nat.zero_mul _)
      | succ value => exact .inr (Nat.le_mul_of_pos_left _ (Nat.succ_pos value))
    have hpos := unitsPerOne_pos
    have hwritten : ((value * unitsPerOne : Nat) : Int) = value * unitsPerOne :=
      Int.natCast_mul ..
    generalize value * unitsPerOne = written at hle hlt hplace hwritten
    rw [← hwritten]
    constructor
    · rintro ⟨units, hsome, hbelow, -⟩
      obtain rfl := Option.some.inj hsome
      refine ⟨_, rfl, ?_, hhigh⟩
      cases negative <;> simp only [Binary64.signedUnits, Bool.false_eq_true, if_false, if_true]
        at hbelow hlow ⊢ <;> omega
    · rintro ⟨units, hsome, habove, -⟩
      obtain rfl := Option.some.inj hsome
      refine ⟨_, rfl, ?_, ?_⟩ <;> cases negative <;>
        simp only [Binary64.signedUnits, Bool.false_eq_true, if_false, if_true]
          at habove ⊢ <;> omega

/-! ## Two fields of a packet -/

/-- What is read has a leap indicator of two bits and a stratum that is not negative. -/
theorem header_of_decode {data : List UInt8} {p : Packet} (h : decode data = .ok p) :
    0 ≤ p.leap ∧ p.leap ≤ 3 ∧ 0 ≤ p.stratum := by
  unfold decode at h
  split at h
  · cases h
  · cases h
    refine ⟨Int.natCast_nonneg _, ?_, Int.natCast_nonneg _⟩
    show ((field data 0 1 / 64 % 4 : Nat) : Int) ≤ 3
    omega

/-- A number in a field fits, and the field holds its octets. -/
theorem place_eq_ok {count : Nat} {value : Int} {octets : List UInt8}
    (h : place count value = .ok octets) :
    (0 ≤ value ∧ value < 256 ^ count) ∧ octets = toOctets count value.toNat := by
  unfold place at h
  split at h
  · exact ⟨‹_›, (Except.ok.inj h).symm⟩
  · cases h

/-- A field between others is read alone. -/
theorem field_append {front middle : List UInt8} (back : List UInt8) {start count : Nat}
    (hstart : front.length = start) (hcount : middle.length = count) :
    field (front ++ (middle ++ back)) start count = ofOctets middle := by
  rw [field, ← hstart, List.drop_left, ← hcount, List.take_left]

/-- A number of four octets is read as it was written. -/
theorem ofOctets_of_place {value : Int} {octets : List UInt8} (h : place 4 value = .ok octets) :
    (ofOctets octets : Int) = value := by
  obtain ⟨⟨hlow, hhigh⟩, rfl⟩ := place_eq_ok h
  rw [ofOctets_toOctets]
  omega

/-- In what is written of a packet, the octets from the fourth and from the eighth on are the
fixed-point forms of the root delay and the root dispersion, and these have room there. -/
theorem fields_of_encode {p : Packet} {octets : List UInt8} (h : p.encode = .ok octets) :
    (fixedPoint 16 p.rootDelay = .ok (field octets 4 4 : Nat) ∧ p.rootDelay.FitsShort) ∧
      fixedPoint 16 p.rootDispersion = .ok (field octets 8 4 : Nat) ∧
        p.rootDispersion.FitsShort := by
  simp only [encode, bind_eq_ok, joinFields_cons_eq_ok] at h
  obtain ⟨delay, hdelay, dispersion, hdispersion, -, -, -, -, -, -, -, -, o₁, -, h₁,
    ⟨o₂, -, h₂, ⟨o₃, -, h₃, ⟨o₄, -, h₄, ⟨o₅, -, h₅, ⟨o₆, rest, h₆, -, rfl⟩, rfl⟩, rfl⟩, rfl⟩,
    rfl⟩, rfl⟩ := h
  have hhead : (o₁ ++ o₂ ++ o₃ ++ o₄).length = 4 := by
    simp only [List.length_append, length_of_place h₁, length_of_place h₂, length_of_place h₃,
      length_of_placeSigned h₄]
  have hfirst : field (o₁ ++ (o₂ ++ (o₃ ++ (o₄ ++ (o₅ ++ (o₆ ++ rest)))))) 4 4 = ofOctets o₅ := by
    simpa only [List.append_assoc] using
      field_append (o₆ ++ rest) hhead (length_of_place h₅)
  have hsecond : field (o₁ ++ (o₂ ++ (o₃ ++ (o₄ ++ (o₅ ++ (o₆ ++ rest)))))) 8 4 = ofOctets o₆ := by
    have hlonger : (o₁ ++ o₂ ++ o₃ ++ o₄ ++ o₅).length = 8 := by
      rw [List.length_append, hhead, length_of_place h₅]
    simpa only [List.append_assoc] using field_append rest hlonger (length_of_place h₆)
  rw [hfirst, hsecond, ofOctets_of_place h₅, ofOctets_of_place h₆]
  obtain ⟨⟨hlow, hhigh⟩, -⟩ := place_eq_ok h₅
  obtain ⟨⟨hlow', hhigh'⟩, -⟩ := place_eq_ok h₆
  exact ⟨⟨hdelay, fitsShort_of_fixedPoint hdelay hlow hhigh⟩, hdispersion,
    fitsShort_of_fixedPoint hdispersion hlow' hhigh'⟩

end Packet

/-! ## Templates -/

/-- The exponent of a wait has room in its field. -/
theorem pollExponent_bounds {wait : Binary64} {exponent : Int}
    (h : pollExponent wait = .ok exponent) : 0 ≤ exponent ∧ exponent ≤ 17 := by
  unfold pollExponent at h
  split at h
  · obtain rfl := Except.ok.inj h
    decide
  · split at h
    · cases h
    · obtain rfl := Except.ok.inj h
      omega

namespace Template

variable {t : Template} {request : Packet} {raw : Option (List UInt8)} {received sent : Binary64}

/-- An answer says the root delay and the root dispersion of a template. -/
def SaidIn (t : Template) (octets : List UInt8) : Prop :=
  t.rootDelay.SaidBy (Packet.field octets 4 4) ∧ t.rootDispersion.SaidBy (Packet.field octets 8 4)

/-- The time that an answer echoes stands behind the two fields. -/
theorem field_echo {data octets : List UInt8} {start : Nat} (hstart : start + 4 ≤ 24)
    (hlength : 24 ≤ octets.length) :
    Packet.field (echo data octets) start 4 = Packet.field octets start 4 := by
  have hfirst : (octets.take 24).length = 24 := List.length_take_of_le hlength
  unfold Packet.field echo
  rw [List.append_assoc, List.drop_append_of_le_length (by omega),
    List.take_append_of_le_length (by rw [List.length_drop]; omega), List.drop_take,
    List.take_take, Nat.min_eq_left (by omega)]

/-- An answer holds the fixed-point forms of the two numbers, which have room. -/
theorem fields_of_reply {octets : List UInt8} (h : t.reply request raw received sent = .ok octets) :
    (Packet.fixedPoint 16 t.rootDelay = .ok (Packet.field octets 4 4 : Nat) ∧
      t.rootDelay.FitsShort) ∧
    Packet.fixedPoint 16 t.rootDispersion = .ok (Packet.field octets 8 4 : Nat) ∧
      t.rootDispersion.FitsShort := by
  simp only [reply, bind_eq_ok] at h
  obtain ⟨encoded, hencoded, h⟩ := h
  have hfields := Packet.fields_of_encode hencoded
  have hlength := Packet.length_of_encode hencoded
  cases raw with
  | none =>
    cases h
    exact hfields
  | some data =>
    cases h
    rw [field_echo (by decide) (by rw [hlength]; decide),
      field_echo (by decide) (by rw [hlength]; decide)]
    exact hfields

/-- A template with numbers that have room answers like one with their absolute values. -/
theorem reply_abs (hdelay : t.rootDelay.FitsShort) (hdispersion : t.rootDispersion.FitsShort) :
    t.reply request raw received sent =
      ({ t with rootDelay := t.rootDelay.abs, rootDispersion := t.rootDispersion.abs } :
        Template).reply request raw received sent := by
  simp only [reply, answer, Packet.encode, (Packet.fixedPoint_abs hdelay).1,
    (Packet.fixedPoint_abs hdispersion).1]

/-- The two sums of a template. -/
theorem sums_of_fromReference {r : Reference} {wait dispersion now : Binary64}
    (h : fromReference r wait dispersion now = .ok t) :
    t.rootDelay = r.sample.rootDelay.add r.sample.delay ∧
      t.rootDispersion = r.sample.rootDispersion.add dispersion := by
  simp only [fromReference, ofSample, bind_eq_ok] at h
  obtain ⟨exponent, -, id, -, h⟩ := h
  rw [← Except.ok.inj h]
  exact ⟨rfl, rfl⟩

/-- Apart from its two sums, what a template takes from a packet fits the wire. -/
theorem onWire_of_fromReference {data : List UInt8} {p : Packet}
    (hdecode : Packet.decode data = .ok p) {arrived : Binary64} {r : Reference}
    (hsample : r.sample = p.sample arrived) {wait dispersion now : Binary64}
    (hnow : (toEpoch now).Within (2 ^ 32)) (h : fromReference r wait dispersion now = .ok t)
    {rootDelay rootDispersion : Binary64} (hdelay : rootDelay.Within 65536)
    (hdispersion : rootDispersion.Within 65536) :
    ({ t with rootDelay, rootDispersion } : Template).OnWire := by
  obtain ⟨hleap, hleap', hstratum⟩ := Packet.header_of_decode hdecode
  simp only [fromReference, ofSample, bind_eq_ok] at h
  obtain ⟨exponent, hexponent, id, hid, h⟩ := h
  cases h
  rw [hsample]
  obtain ⟨hpoll, hpoll'⟩ := pollExponent_bounds hexponent
  have hpoll255 : exponent ≤ 255 := by omega
  have hid32 : (id : Int) < 2 ^ 32 := by
    unfold referenceId at hid
    split at hid
    · cases hid
      exact Int.ofNat_lt.2 (Address.referenceId_lt _)
    · cases hid
  have hserved : (0 : Int) ≤ min (p.stratum + 1) highestServedStratum ∧
      min (p.stratum + 1) highestServedStratum ≤ 255 := by
    unfold highestServedStratum
    omega
  have hprecision : -128 ≤ announcedPrecision ∧ announcedPrecision ≤ 127 := by decide
  exact ⟨⟨hleap, hleap'⟩, hserved, ⟨hpoll, hpoll255⟩, hprecision, hdelay, hdispersion,
    ⟨Int.natCast_nonneg _, hid32⟩, hnow⟩

/-- A template made from a packet has an answer to a request whose times are in range exactly when
its root delay and its root dispersion are above `-1` and below `65536`. The answer is one packet
whose two fields say them exactly when both are above `-1 / 65536`, too. -/
theorem served_iff {data : List UInt8} {p : Packet} (hdecode : Packet.decode data = .ok p)
    {arrived : Binary64} {r : Reference} (hsample : r.sample = p.sample arrived)
    (haddress : (Address.readHost? r.peer.address).isSome = true) {wait : Binary64}
    (hwait : wait ∈ standardWaits) (dispersion : Binary64) {now : Binary64}
    (hnow : (toEpoch now).Within (2 ^ 32)) :
    ∃ t, fromReference r wait dispersion now = .ok t ∧
      t.rootDelay = p.rootDelay.add (p.sample arrived).delay ∧
      t.rootDispersion = p.rootDispersion.add dispersion ∧
      ∀ (request : Packet) (raw : Option (List UInt8)) (received sent : Binary64),
        request.sentTime.Within (2 ^ 32) →
        (∀ octets, raw = some octets → packetSize ≤ octets.length) →
        (toEpoch received).Within (2 ^ 32) → (toEpoch sent).Within (2 ^ 32) →
        ((∃ octets, t.reply request raw received sent = .ok octets) ↔
          t.rootDelay.FitsShort ∧ t.rootDispersion.FitsShort) ∧
        ((∃ octets, t.reply request raw received sent = .ok octets ∧
            octets.length = packetSize ∧ t.SaidIn octets) ↔
          t.rootDelay.Servable ∧ t.rootDispersion.Servable) := by
  obtain ⟨t, ht⟩ := fromReference_eq r dispersion now hwait haddress
  obtain ⟨hsum, hsum'⟩ := sums_of_fromReference ht
  rw [hsample] at hsum hsum'
  refine ⟨t, ht, hsum, hsum', ?_⟩
  intro request raw received sent hrequest hraw hreceived hsent
  -- Numbers that have room are replaced by their absolute values, with which everything fits.
  have hexists (hdelay : t.rootDelay.FitsShort) (hdispersion : t.rootDispersion.FitsShort) :
      ∃ octets, t.reply request raw received sent = .ok octets := by
    rw [reply_abs hdelay hdispersion]
    exact exists_reply (onWire_of_fromReference hdecode hsample hnow ht
      (Packet.fixedPoint_abs hdelay).2 (Packet.fixedPoint_abs hdispersion).2) hreceived hsent
      hrequest raw
  refine ⟨⟨?_, fun h => hexists h.1 h.2⟩, ?_, ?_⟩
  · rintro ⟨octets, hreply⟩
    obtain ⟨⟨-, hdelay⟩, -, hdispersion⟩ := fields_of_reply hreply
    exact ⟨hdelay, hdispersion⟩
  · rintro ⟨octets, hreply, -, hdelay, hdispersion⟩
    obtain ⟨⟨hfirst, hfits⟩, hsecond, hfits'⟩ := fields_of_reply hreply
    exact ⟨(Packet.saidBy_iff hfirst hfits).1 hdelay,
      (Packet.saidBy_iff hsecond hfits').1 hdispersion⟩
  · rintro ⟨hdelay, hdispersion⟩
    obtain ⟨octets, hreply⟩ := hexists hdelay.fitsShort hdispersion.fitsShort
    obtain ⟨⟨hfirst, hfits⟩, hsecond, hfits'⟩ := fields_of_reply hreply
    exact ⟨octets, hreply, length_of_reply hraw hreply,
      (Packet.saidBy_iff hfirst hfits).2 hdelay,
      (Packet.saidBy_iff hsecond hfits').2 hdispersion⟩

/-- The packet of a server at stratum 1 that claims to have sent its answer the given number of
seconds after the request, which arrived as soon as it was sent. -/
def heldFor (seconds : UInt8) : List UInt8 :=
  [0x24, 1, 4, 0xec] ++ List.replicate 20 0 ++ [0xe8, 0, 0, 0, 0, 0, 0, 0] ++
    [0xe8, 0, 0, 0, 0, 0, 0, 0] ++ [0xe8, 0, 0, seconds, 0, 0, 0, 0]

/-- What that packet says. -/
def packetHeldFor (seconds : Nat) : Packet :=
  { leap := 0, version := spokenVersion, mode := serverMode, stratum := 1, poll := 4
    precision := -20, rootDelay := .zero, rootDispersion := .zero, refId := 0, refTime := .zero
    origTime := .ofInt 3892314112, recvTime := .ofInt 3892314112
    sentTime := .ofNat (3892314112 + seconds) }

/-- The reference that comes from the packet when it arrives two seconds after the request. -/
def referenceHeldFor (seconds : Nat) : Reference :=
  ⟨0, 0, { origin := "a", address := "192.0.2.1" },
    (packetHeldFor seconds).sample (.ofInt 3892314114)⟩

/-- When the server held the request for one of the two seconds, the template is served. -/
theorem served_of_heldForOne :
    ∃ t, fromReference (referenceHeldFor 1) (.ofInt 16) .zero (.ofInt 1700000000) = .ok t ∧
      ∃ octets, t.reply (packetHeldFor 1) none (.ofInt 1700000000) (.ofInt 1700000000) =
          .ok octets ∧ octets.length = packetSize ∧ t.SaidIn octets := by
  have hdecode : Packet.decode (heldFor 1) = .ok (packetHeldFor 1) :=
    eq_ok_of_toOption (by decide +kernel)
  have hwait : Binary64.ofInt 16 ∈ standardWaits := by decide +kernel
  obtain ⟨t, ht, hdelay, hdispersion, hserved⟩ := served_iff hdecode (r := referenceHeldFor 1) rfl
    (by decide +kernel) hwait .zero Responder.within_wallClock
  refine ⟨t, ht, (hserved (packetHeldFor 1) none _ _ (by decide +kernel) nofun
    Responder.within_wallClock Responder.within_wallClock).2.2 ?_⟩
  rw [hdelay, hdispersion]
  decide +kernel

/-- When the server claims to have held the request for four of the two seconds, a request is not
answered, although the sample may be kept. -/
theorem not_served_of_heldForFour :
    Packet.decode (heldFor 4) = .ok (packetHeldFor 4) ∧
      (referenceHeldFor 4).sample.rejection? = none ∧
      ∃ t, fromReference (referenceHeldFor 4) (.ofInt 16) .zero (.ofInt 1700000000) = .ok t ∧
        ¬ ∃ octets, t.reply (packetHeldFor 4) none (.ofInt 1700000000) (.ofInt 1700000000) =
          .ok octets := by
  refine ⟨eq_ok_of_toOption (by decide +kernel), by decide, ?_⟩
  have hwait : Binary64.ofInt 16 ∈ standardWaits := by decide +kernel
  obtain ⟨t, ht⟩ := fromReference_eq (referenceHeldFor 4) .zero (.ofInt 1700000000) hwait
    (by decide +kernel)
  refine ⟨t, ht, ?_⟩
  rintro ⟨octets, hreply⟩
  obtain ⟨⟨-, hfits⟩, -⟩ := fields_of_reply hreply
  rw [(sums_of_fromReference ht).1] at hfits
  revert hfits
  decide +kernel

end Template

end Concord
