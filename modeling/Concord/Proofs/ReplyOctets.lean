import Concord.Proofs.RoundingInterval
import Concord.Proofs.ServedTemplate

/-!
# The octets of an answer

Every field of an answer is known: the whole numbers of the template stand in it as they are, its
fixed-point numbers cut to their places (`Binary64.cut`), and the octets with which the request says
when it was sent are repeated. What a client reads in it is therefore the template, up to what was
cut off, and nothing is cut off a time that has no more places than its field.

The main statement is `answered_with_template`: the fields of an answer, each at its place, and what
is read back of them.
-/

namespace Concord

/-! ## Numbers cut to their places -/

namespace Binary64

/-- The number in units of its given binary place, cut to a whole number. -/
def cut (bits : Nat) (x : Binary64) : Nat := (x.units?.getD 0).toNat * 2 ^ bits / unitsPerOne

/-- The first number is not above the second one, and less than one of its given binary places
below. -/
def CutFrom (bits : Nat) (x y : Binary64) : Prop :=
  ∃ u v : Nat, x.units? = some (u : Int) ∧ y.units? = some (v : Int) ∧
    u ≤ v ∧ v * 2 ^ bits < u * 2 ^ bits + unitsPerOne

/-- The number is a multiple of its given binary place. -/
def OnGrid (bits : Nat) (x : Binary64) : Prop :=
  ∃ units, x.units? = some units ∧ (unitsPerOne : Int) ∣ units * 2 ^ bits

/-- A number that is a natural number of units is cut to a whole number by division. -/
theorem cut_eq {x : Binary64} {units : Nat} (h : x.units? = some (units : Int)) (bits : Nat) :
    x.cut bits = units * 2 ^ bits / unitsPerOne := by
  rw [cut, h, Option.getD_some, Int.toNat_natCast]

/-- A number in a range is a magnitude, with a sign only if it is zero. -/
theorem Within.exists_magnitude {x : Binary64} {limit : Nat} (h : x.Within limit) :
    ∃ negative m, x = finite negative m ∧ x.units? = some (m.units : Int) := by
  obtain ⟨units, hunits, hpos, -⟩ := h
  cases x with
  | nan | infinite => cases hunits
  | finite negative m =>
    obtain rfl := Option.some.inj hunits
    have hsigned : signedUnits negative m.units = m.units := by
      cases negative with
      | false => rfl
      | true =>
        rw [signedUnits, if_pos rfl] at hpos ⊢
        omega
    exact ⟨negative, m, rfl, by rw [units?, hsigned]⟩

end Binary64

/-- A magnitude is the nearest number to itself. -/
theorem Magnitude.roundUnits_mul (m : Magnitude) {d : Nat} (hd : 0 < d) :
    roundUnits (m.units * d) d = m.units := by
  have hpos : 0 < d * 2 ^ m.gridShift := Nat.mul_pos hd (Nat.two_pow_pos _)
  have hratio : m.units * d = m.significand * (d * 2 ^ m.gridShift) := by
    rw [← m.units_eq, Nat.mul_assoc, Nat.mul_comm d]
  have hshift : (m.units * d / d).log2 - 52 = m.gridShift := by
    rw [Nat.mul_div_cancel _ hd, gridShift]
  simp only [roundUnits, hshift]
  rw [hratio, divHalfEven_mul_right _ hpos, m.units_eq]

namespace Packet

section

variable {x : Binary64} {limit bits : Nat}

/-- The fixed-point form of a number in a range is the number cut to its places. -/
theorem fixedPoint_eq_cut (bits : Nat) (h : x.Within limit) :
    fixedPoint bits x = .ok (x.cut bits : Nat) ∧ x.cut bits < limit * 2 ^ bits := by
  obtain ⟨value, hvalue, hlt⟩ := fixedPoint_of_within bits h
  obtain ⟨negative, m, rfl, hunits⟩ := h.exists_magnitude
  suffices heq : (Binary64.finite negative m).cut bits = value by
    rw [heq]
    exact ⟨hvalue, hlt⟩
  have hsum := Except.ok.inj hvalue
  rw [Binary64.cut_eq hunits, ← m.whole_mul_add_places]
  cases negative with
  | false =>
    simp only [Binary64.signedUnits, Bool.false_eq_true, if_false] at hsum
    exact_mod_cast hsum
  | true =>
    have hzero : m.units = 0 := by
      simp only [Binary64.units?, Binary64.signedUnits, if_true, Option.some.injEq] at hunits
      omega
    have hwhole : m.whole = 0 := by simp [Magnitude.whole, hzero]
    have hplaces : (m.places bits : Int) = value := by
      simpa [Binary64.signedUnits, hwhole] using hsum
    rw [hwhole, Nat.zero_mul, Nat.zero_add]
    exact_mod_cast hplaces

/-- A number is read as the number that it was written from, if nothing was cut off. -/
theorem withPlaces_eq_finite {n : Nat} {m : Magnitude}
    (h : m.units * 2 ^ bits = n * unitsPerOne) : withPlaces bits n = .finite false m := by
  have hround : roundUnits (n * unitsPerOne) (2 ^ bits) = m.units := by
    rw [← h, m.roundUnits_mul (Nat.two_pow_pos bits)]
  simp only [withPlaces, Binary64.ofRatio, Binary64.ofUnitRatio, hround, m.fits.1, dif_pos]

/-- A short number is read as what is left of it after cutting. -/
theorem withPlaces_cut_short (h : x.Within 65536) :
    (withPlaces 16 (x.cut 16)).CutFrom 16 x := by
  have hlt := (fixedPoint_eq_cut 16 h).2
  obtain ⟨negative, m, rfl, hunits⟩ := h.exists_magnitude
  have hcut := Binary64.cut_eq hunits 16
  generalize (Binary64.finite negative m).cut 16 = n at hlt hcut ⊢
  -- What is left has at most 32 bits, so it is a number of the format.
  obtain ⟨k, hone, hroom⟩ := exists_unitsPerOne_eq
  have hunit : unitsPerOne = 2 ^ (k + 16) * 2 ^ 16 := by rw [hone, ← Nat.pow_add]
  have hbelow : n * 2 ^ (k + 16) < unitsLimit := by
    refine Nat.lt_trans (Nat.mul_lt_mul_of_lt_of_le hlt ?_ (Nat.two_pow_pos _)) hroom
    exact Nat.pow_le_pow_right (by omega) (by omega)
  have hexact : n * 2 ^ (k + 16) * 2 ^ 16 = n * unitsPerOne := by rw [hunit, Nat.mul_assoc]
  rw [withPlaces_eq_finite (m := ⟨_, representable_shift (by omega) hbelow⟩) hexact]
  refine ⟨n * 2 ^ (k + 16), m.units, rfl, hunits, ?_, ?_⟩
  · refine Nat.le_of_mul_le_mul_right ?_ (Nat.two_pow_pos 16)
    rw [hexact, hcut]
    exact Nat.div_mul_le_self _ _
  · rw [hexact, hcut]
    exact Nat.lt_div_mul_add unitsPerOne_pos

/-- A time with no more places than its field is read as it was written. -/
theorem withPlaces_cut_time (h : x.Within limit) (hgrid : x.OnGrid bits) :
    (withPlaces bits (x.cut bits)).units? = x.units? := by
  obtain ⟨units, hsome, hdvd⟩ := hgrid
  obtain ⟨negative, m, rfl, hunits⟩ := h.exists_magnitude
  rw [hunits] at hsome
  obtain rfl := Option.some.inj hsome
  have hexact : m.units * 2 ^ bits = (Binary64.finite negative m).cut bits * unitsPerOne := by
    rw [Binary64.cut_eq hunits]
    refine (Nat.div_mul_cancel ?_).symm
    exact_mod_cast hdvd
  rw [withPlaces_eq_finite hexact, hunits]
  rfl

end

/-! ## Fields one after the other -/

/-- Fields that fit are joined. -/
theorem joinFields_map_ok (parts : List (List UInt8)) :
    joinFields (parts.map .ok) = .ok parts.flatten := by
  induction parts with
  | nil => rfl
  | cons part rest ih => exact joinFields_cons_eq_ok.2 ⟨part, rest.flatten, rfl, ih, rfl⟩

/-- A number that fits a field is written in its octets. -/
theorem place_eq {count : Nat} {value : Int} (hlow : 0 ≤ value) (hhigh : value < 256 ^ count) :
    place count value = .ok (toOctets count value.toNat) := if_pos ⟨hlow, hhigh⟩

/-- A natural number that fits a field is written in its octets. -/
theorem place_natCast {count n : Nat} (h : (n : Int) < 256 ^ count) :
    place count (n : Int) = .ok (toOctets count n) := by
  rw [place_eq (Int.natCast_nonneg n) h, Int.toNat_natCast]

/-- The octets of one of the parts stand behind those of the parts in front of it. -/
theorem field_flatten {parts : List (List UInt8)} {i : Nat} {part : List UInt8}
    (h : parts[i]? = some part) :
    field parts.flatten (parts.take i).flatten.length part.length = ofOctets part := by
  obtain ⟨hi, rfl⟩ := List.getElem?_eq_some_iff.1 h
  have hsplit : parts.flatten =
      (parts.take i).flatten ++ (parts[i] ++ (parts.drop (i + 1)).flatten) := by
    rw [← List.flatten_cons, ← List.flatten_append, List.getElem_cons_drop,
      List.take_append_drop]
  rw [hsplit, field_append _ rfl rfl]

end Packet

namespace Template

variable {t : Template}

/-- The fields of an answer, one after the other. -/
def parts (t : Template) (version : Nat) (origin : List UInt8) (received sent : Binary64) :
    List (List UInt8) :=
  [toOctets 1 (t.leap * 64 + version * 8 + serverMode.val).toNat, toOctets 1 t.stratum.toNat,
    toOctets 1 t.poll.toNat, toOctets 1 (t.precision % 256).toNat,
    toOctets 4 (t.rootDelay.cut 16), toOctets 4 (t.rootDispersion.cut 16),
    toOctets 4 t.refId.toNat, toOctets 8 (t.refTime.cut 32), origin,
    toOctets 8 ((toEpoch received).cut 32), toOctets 8 ((toEpoch sent).cut 32)]

/-- What is written of an answer. -/
theorem encode_answer_eq (ht : t.OnWire) {request : Packet} {received sent : Binary64}
    (hrequest : request.sentTime.Within (2 ^ 32)) (hreceived : (toEpoch received).Within (2 ^ 32))
    (hsent : (toEpoch sent).Within (2 ^ 32)) :
    (t.answer request received sent).encode = .ok
      (t.parts (t.answer request received sent).version.val
        (toOctets 8 (request.sentTime.cut 32)) received sent).flatten := by
  have hversion := (t.answer request received sent).version.isLt
  obtain ⟨hleap, hstratum, hpoll, hprecision, hdelay, hdispersion, hrefId, href⟩ := ht
  obtain ⟨hdelay, hdelayLt⟩ := Packet.fixedPoint_eq_cut 16 hdelay
  obtain ⟨hdispersion, hdispersionLt⟩ := Packet.fixedPoint_eq_cut 16 hdispersion
  obtain ⟨href, hrefLt⟩ := Packet.fixedPoint_eq_cut 32 href
  obtain ⟨horig, horigLt⟩ := Packet.fixedPoint_eq_cut 32 hrequest
  obtain ⟨hrecv, hrecvLt⟩ := Packet.fixedPoint_eq_cut 32 hreceived
  obtain ⟨hsending, hsendingLt⟩ := Packet.fixedPoint_eq_cut 32 hsent
  rw [← Packet.joinFields_map_ok]
  have hmode : ((serverMode.val : Nat) : Int) = 4 := rfl
  have hencode : (t.answer request received sent).encode = Packet.joinFields
      [Packet.place 1
          (t.leap * 64 + (t.answer request received sent).version.val * 8 + serverMode.val),
        Packet.place 1 t.stratum, Packet.place 1 t.poll, Packet.placeSigned t.precision,
        Packet.place 4 (t.rootDelay.cut 16 : Nat), Packet.place 4 (t.rootDispersion.cut 16 : Nat),
        Packet.place 4 t.refId, Packet.place 8 (t.refTime.cut 32 : Nat),
        Packet.place 8 (request.sentTime.cut 32 : Nat),
        Packet.place 8 ((toEpoch received).cut 32 : Nat),
        Packet.place 8 ((toEpoch sent).cut 32 : Nat)] := by
    simp only [Packet.encode, answer, hdelay, hdispersion, href, horig, hrecv, hsending, bind,
      Except.bind]
  rw [hencode]
  refine congrArg _ ?_
  -- Every field has room for its number.
  simp only [parts, List.map_cons, List.map_nil, List.cons.injEq, and_true]
  exact ⟨Packet.place_eq (by omega) (by omega), Packet.place_eq (by omega) (by omega),
    Packet.place_eq (by omega) (by omega), if_pos (by omega), Packet.place_natCast (by omega),
    Packet.place_natCast (by omega), Packet.place_eq (by omega) (by omega),
    Packet.place_natCast (by omega), Packet.place_natCast (by omega),
    Packet.place_natCast (by omega), Packet.place_natCast (by omega)⟩

/-- The time at which the request was sent has its place behind 24 octets, and the other octets are
the same whatever it is. -/
theorem exists_flatten_parts (t : Template) (version : Nat) (received sent : Binary64) :
    ∃ front back : List UInt8, front.length = 24 ∧ ∀ origin,
      (t.parts version origin received sent).flatten = front ++ (origin ++ back) :=
  ⟨((t.parts version [] received sent).take 8).flatten,
    ((t.parts version [] received sent).drop 9).flatten, by simp [parts], by simp [parts]⟩

/-- The octets of the request stand in the place of the time that was written. -/
theorem echo_parts {written data : List UInt8} (hwritten : written.length = 8)
    (version : Nat) (received sent : Binary64) :
    echo data (t.parts version written received sent).flatten =
      (t.parts version ((data.drop 40).take 8) received sent).flatten := by
  obtain ⟨front, back, hfront, hsplit⟩ := t.exists_flatten_parts version received sent
  rw [hsplit, hsplit, echo, List.take_left' hfront, ← List.append_assoc front written,
    List.drop_left' (by rw [List.length_append, hfront, hwritten]), List.append_assoc]

/-- The octets of an answer say the template: each field has its number at its place, the times at
which the request arrived and the answer was sent are cut like the time of the template, and the
time at which the request was sent is repeated. -/
structure WrittenIn (t : Template) (version : Nat) (origin : List UInt8)
    (received sent : Binary64) (octets : List UInt8) : Prop where
  size : octets.length = packetSize
  first : (Packet.field octets 0 1 : Int) = t.leap * 64 + version * 8 + 4
  stratum : (Packet.field octets 1 1 : Int) = t.stratum
  poll : (Packet.field octets 2 1 : Int) = t.poll
  precision : (Packet.field octets 3 1 : Int) = t.precision % 256
  rootDelay : Packet.field octets 4 4 = t.rootDelay.cut 16
  rootDispersion : Packet.field octets 8 4 = t.rootDispersion.cut 16
  refId : (Packet.field octets 12 4 : Int) = t.refId
  refTime : Packet.field octets 16 8 = t.refTime.cut 32
  origin : (octets.drop 24).take 8 = origin
  recvTime : Packet.field octets 32 8 = (toEpoch received).cut 32
  sentTime : Packet.field octets 40 8 = (toEpoch sent).cut 32

/-- The fields of an answer say the template. -/
theorem writtenIn_parts (ht : t.OnWire) {version : Nat} (hversion : version < 8)
    {origin : List UInt8} (horigin : origin.length = 8) {received sent : Binary64}
    (hreceived : (toEpoch received).Within (2 ^ 32)) (hsent : (toEpoch sent).Within (2 ^ 32)) :
    t.WrittenIn version origin received sent (t.parts version origin received sent).flatten := by
  obtain ⟨hleap, hstratum, hpoll, hprecision, hdelay, hdispersion, hrefId, href⟩ := ht
  have hdelayLt := (Packet.fixedPoint_eq_cut 16 hdelay).2
  have hdispersionLt := (Packet.fixedPoint_eq_cut 16 hdispersion).2
  have hrefLt := (Packet.fixedPoint_eq_cut 32 href).2
  have hrecvLt := (Packet.fixedPoint_eq_cut 32 hreceived).2
  have hsentLt := (Packet.fixedPoint_eq_cut 32 hsent).2
  have hfield {i count n start : Nat}
      (hpart : (t.parts version origin received sent)[i]? = some (toOctets count n))
      (hroom : n < 256 ^ count)
      (hstart : ((t.parts version origin received sent).take i).flatten.length = start) :
      Packet.field (t.parts version origin received sent).flatten start count = n := by
    have h := Packet.field_flatten hpart
    rw [hstart, length_toOctets, ofOctets_toOctets, Nat.mod_eq_of_lt hroom] at h
    exact h
  obtain ⟨front, back, hfront, hsplit⟩ := t.exists_flatten_parts version received sent
  have hmode : ((serverMode.val : Nat) : Int) = 4 := rfl
  exact {
    size := by simp [parts, horigin, packetSize]
    first := by
      rw [hfield (i := 0) rfl (by omega) (by simp)]
      omega
    stratum := by
      rw [hfield (i := 1) rfl (by omega) (by simp [parts])]
      omega
    poll := by
      rw [hfield (i := 2) rfl (by omega) (by simp [parts])]
      omega
    precision := by
      rw [hfield (i := 3) rfl (by omega) (by simp [parts])]
      omega
    rootDelay := hfield (i := 4) rfl (by omega) (by simp [parts])
    rootDispersion := hfield (i := 5) rfl (by omega) (by simp [parts])
    refId := by
      rw [hfield (i := 6) rfl (by omega) (by simp [parts])]
      omega
    refTime := hfield (i := 7) rfl (by omega) (by simp [parts])
    origin := by rw [hsplit, List.drop_left' hfront, List.take_left' horigin]
    recvTime := hfield (i := 9) rfl (by omega) (by simp [parts, horigin])
    sentTime := hfield (i := 10) rfl (by omega) (by simp [parts, horigin]) }

/-! ## What is read of an answer -/

/-- What is read of an answer is the template, apart from the places that were cut off. -/
structure ReadAs (t : Template) (version : Nat) (received sent : Binary64) (p : Packet) : Prop where
  leap : p.leap = t.leap
  version : p.version.val = version
  mode : p.mode = serverMode
  stratum : p.stratum = t.stratum
  poll : p.poll = t.poll
  precision : p.precision = t.precision
  rootDelay : p.rootDelay.CutFrom 16 t.rootDelay
  rootDispersion : p.rootDispersion.CutFrom 16 t.rootDispersion
  refId : p.refId = t.refId
  refTime : t.refTime.OnGrid 32 → p.refTime.units? = t.refTime.units?
  recvTime : (toEpoch received).OnGrid 32 → p.recvTime.units? = (toEpoch received).units?
  sentTime : (toEpoch sent).OnGrid 32 → p.sentTime.units? = (toEpoch sent).units?

/-- Reading the octets that say a template gives it back. -/
theorem WrittenIn.decode {version : Nat} {origin : List UInt8} {received sent : Binary64}
    {octets : List UInt8} (h : t.WrittenIn version origin received sent octets) (ht : t.OnWire)
    (hversion : version < 8) (hreceived : (toEpoch received).Within (2 ^ 32))
    (hsent : (toEpoch sent).Within (2 ^ 32)) :
    ∃ p, Packet.decode octets = .ok p ∧ t.ReadAs version received sent p := by
  have hsize : ¬ octets.length < packetSize := by
    rw [h.size]
    exact Nat.lt_irrefl _
  refine ⟨_, by rw [Packet.decode, if_neg hsize], ?_⟩
  obtain ⟨hleap, hstratum, hpoll, hprecision, hdelay, hdispersion, hrefId, href⟩ := ht
  have hfirst := h.first
  exact {
    leap := by
      show ((Packet.field octets 0 1 / 64 % 4 : Nat) : Int) = t.leap
      omega
    version := by
      show Packet.field octets 0 1 / 8 % 8 = version
      omega
    mode := by
      refine Fin.ext ?_
      show Packet.field octets 0 1 % 8 = 4
      omega
    stratum := h.stratum
    poll := h.poll
    precision := by
      have hoctet := h.precision
      show Packet.signedOctet (Packet.field octets 3 1) = t.precision
      unfold Packet.signedOctet
      split <;> omega
    rootDelay := by simpa only [h.rootDelay] using Packet.withPlaces_cut_short hdelay
    rootDispersion := by
      simpa only [h.rootDispersion] using Packet.withPlaces_cut_short hdispersion
    refId := h.refId
    refTime := by simpa only [h.refTime] using Packet.withPlaces_cut_time href
    recvTime := by simpa only [h.recvTime] using Packet.withPlaces_cut_time hreceived
    sentTime := by simpa only [h.sentTime] using Packet.withPlaces_cut_time hsent }

end Template

/-! ## Requests -/

namespace Responder

/-- The datagram is a request: a whole packet in the mode of a client. -/
def IsRequest (data : List UInt8) : Prop :=
  packetSize ≤ data.length ∧ (data.headD 0).toNat % 8 = clientMode.val

instance (data : List UInt8) : Decidable (IsRequest data) := inferInstanceAs (Decidable (_ ∧ _))

/-- The version in which a datagram is answered: its own one, or the spoken one if it has none. -/
def answeredVersion (data : List UInt8) : Nat :=
  if (data.headD 0).toNat / 8 % 8 = 0 then spokenVersion.val else (data.headD 0).toNat / 8 % 8

/-- There is a version to answer in. -/
theorem answeredVersion_lt (data : List UInt8) : answeredVersion data < 8 := by
  unfold answeredVersion
  split
  · decide
  · omega

/-- The first field of a packet is its first octet. -/
theorem field_zero {data : List UInt8} (h : packetSize ≤ data.length) :
    Packet.field (data.take packetSize) 0 1 = (data.headD 0).toNat := by
  cases data with
  | nil => exact absurd h (by decide)
  | cons first rest => simp [Packet.field, ofOctets, packetSize]

/-- The first packet of a datagram that is long enough is whole. -/
theorem not_short {data : List UInt8} (h : packetSize ≤ data.length) :
    ¬ (data.take packetSize).length < packetSize := by
  rw [List.length_take_of_le h]
  exact Nat.lt_irrefl _

/-- What is read of a request. -/
theorem request?_of_isRequest {data : List UInt8} (h : IsRequest data) :
    ∃ request, request? data = some request ∧
      request.version.val = (data.headD 0).toNat / 8 % 8 ∧
      request.sentTime = Packet.withPlaces 32 (Packet.field data 40 8) := by
  obtain ⟨hsize, hmode⟩ := h
  have hclient : Fin.ofNat 8 (Packet.field (data.take packetSize) 0 1) = clientMode := by
    rw [field_zero hsize]
    exact Fin.ext hmode
  refine ⟨_, by simp only [request?, Packet.decode, if_neg (not_short hsize), hclient, if_true]; rfl,
    ?_, ?_⟩
  · show Packet.field (data.take packetSize) 0 1 / 8 % 8 = _
    rw [field_zero hsize]
  · simp only [field_take data (show 40 + 8 ≤ packetSize by decide)]

/-- Nothing is read of other datagrams. -/
theorem request?_of_not_isRequest {data : List UInt8} (h : ¬ IsRequest data) :
    request? data = none := by
  unfold request? Packet.decode
  by_cases hsize : packetSize ≤ data.length
  · have hmode : Fin.ofNat 8 (Packet.field (data.take packetSize) 0 1) ≠ clientMode := by
      intro hclient
      rw [field_zero hsize] at hclient
      exact h ⟨hsize, congrArg Fin.val hclient⟩
    simp only [if_neg (not_short hsize), if_neg hmode]
  · have hshort : (data.take packetSize).length < packetSize := by
      rw [List.length_take]
      omega
    simp only [if_pos hshort]

/-- A request that may be answered is answered with the template: the fields of the answer say it,
and what is read of the answer is the template again. -/
theorem answered_with_template {t : Template} (ht : t.OnWire) {data : List UInt8}
    (hrequest : IsRequest data)
    (htime : (Packet.withPlaces 32 (Packet.field data 40 8)).Within (2 ^ 32))
    {arrived now : Binary64} (harrived : (toEpoch arrived).Within (2 ^ 32))
    (hnow : (toEpoch now).Within (2 ^ 32)) {r : Responder} {address : String}
    {monotonic : Binary64} (hallowed : (r.dropTable.step address monotonic).1 = .ok true) :
    ∃ octets p, (r.handle t data address arrived now monotonic).1 = .ok (some octets) ∧
      t.WrittenIn (answeredVersion data) ((data.drop 40).take 8) arrived now octets ∧
      Packet.decode octets = .ok p ∧ t.ReadAs (answeredVersion data) arrived now p := by
  obtain ⟨request, hsome, hversion, hsent⟩ := request?_of_isRequest hrequest
  have hanswered : (t.answer request arrived now).version.val = answeredVersion data := by
    simp only [Template.answer, answeredVersion, ← hversion]
    split <;> rfl
  have horigin : ((data.drop 40).take 8).length = 8 := by
    have := hrequest.1
    unfold packetSize at this
    rw [List.length_take, List.length_drop]
    omega
  have hechoed : ((data.take packetSize).drop 40).take 8 = (data.drop 40).take 8 := by
    rw [List.drop_take, List.take_take]
    rfl
  have hwritten := Template.writtenIn_parts ht (answeredVersion_lt data) horigin harrived hnow
  obtain ⟨p, hdecode, hread⟩ := hwritten.decode ht (answeredVersion_lt data) harrived hnow
  refine ⟨_, p, ?_, hwritten, hdecode, hread⟩
  rw [handle_fst, hallowed]
  simp only [hsome]
  rw [← hsent] at htime
  rw [Template.reply, Template.encode_answer_eq ht htime harrived hnow, hanswered]
  simp only [bind, Except.bind, pure, Except.pure, Except.map]
  rw [Template.echo_parts (length_toOctets ..), hechoed]

/-- The template of a host at stratum 2 that was synchronized at the end of the year 2023. -/
def synchronizedTemplate : Template :=
  { leap := 0, stratum := 2, poll := 6, rootDelay := .ofDecimal false 15625 (-6)
    rootDispersion := .ofDecimal false 1 (-3), refId := 0xc0000201
    refTime := toEpoch (.ofInt 1700000000) }

/-- A request without a version, with octets of a time that binary64 cannot hold. -/
def unversionedRequest : List UInt8 := 3 :: List.replicate 39 0 ++ [1, 2, 3, 4, 5, 6, 7, 8]

/-- A request without a version is answered in the fourth one. A root delay of `1 / 64` is written as
`1024`, a root dispersion of a millisecond is cut to `65`, and times of whole seconds are read as
they are. -/
theorem answered_synchronizedTemplate : ∃ octets p,
    (({ endpoint := ⟨"0.0.0.0", 123⟩ } : Responder).handle synchronizedTemplate
      unversionedRequest "192.0.2.1" (.ofInt 1700000000) (.ofInt 1700000000)
      (.ofInt 1000)).1 = .ok (some octets) ∧
    Packet.field octets 0 1 = 36 ∧ Packet.field octets 4 4 = 1024 ∧
    Packet.field octets 8 4 = 65 ∧ (octets.drop 24).take 8 = [1, 2, 3, 4, 5, 6, 7, 8] ∧
    Packet.decode octets = .ok p ∧ p.version.val = 4 ∧ p.precision = -20 ∧
    p.refTime.units? = synchronizedTemplate.refTime.units? := by
  have ht : synchronizedTemplate.OnWire :=
    ⟨by decide, by decide, by decide, by decide, by decide +kernel, by decide +kernel, by decide,
      by decide +kernel⟩
  have hrequest : IsRequest unversionedRequest := by decide
  have hallowed : (({} : DropTable).step "192.0.2.1" (.ofInt 1000)).1 = .ok true :=
    eq_ok_of_toOption (by decide +kernel)
  have hgrid : synchronizedTemplate.refTime.OnGrid 32 := by
    refine ⟨3908988800 * unitsPerOne, by decide +kernel, 3908988800 * 2 ^ 32, ?_⟩
    rw [Int.mul_assoc, Int.mul_left_comm]
  obtain ⟨octets, p, hhandle, hwritten, hdecode, hread⟩ :=
    answered_with_template ht hrequest (by decide +kernel) within_wallClock within_wallClock
      (r := { endpoint := ⟨"0.0.0.0", 123⟩ }) hallowed
  have hfirst := hwritten.first
  refine ⟨octets, p, hhandle, ?_, ?_, ?_, hwritten.origin, hdecode, hread.version,
    hread.precision, hread.refTime hgrid⟩
  · have : (Packet.field octets 0 1 : Int) = 36 := hfirst
    omega
  · rw [hwritten.rootDelay]
    decide +kernel
  · rw [hwritten.rootDispersion]
    decide +kernel

end Responder

end Concord
