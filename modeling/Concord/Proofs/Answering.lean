import Concord.Proofs.WireNumbers
import Concord.Responder

/-!
# Which datagrams the responder survives

The responder reads the time at which a request was sent as a binary64 number and writes it into the
answer, before the octets of the request are put in its place. A time that reading has rounded up to
`2 ^ 32` does not fit any more, and the fault reaches whoever called the responder. Every other
datagram is answered or left unanswered, as long as the template fits the wire
(`Template.OnWire`) and the drop table can decide.

The main statement is `handle_survives_iff`, the exact condition.
-/

namespace Concord

/-! ## Fields of a packet -/

namespace Packet

/-- A number that fits a field has octets. -/
theorem exists_place {count : Nat} {value : Int} (hlow : 0 ≤ value) (hhigh : value < 256 ^ count) :
    ∃ octets, place count value = .ok octets := ⟨_, if_pos ⟨hlow, hhigh⟩⟩

/-- A number that does not fit a field has none. -/
theorem place_of_le {count : Nat} {value : Int} (h : 256 ^ count ≤ value) :
    place count value = .error .packetField :=
  if_neg fun hfits => Int.not_lt.2 h hfits.2

/-- Fields that all fit are joined. -/
theorem exists_joinFields {fields : List (Except Fault (List UInt8))}
    (h : ∀ field ∈ fields, ∃ octets, field = .ok octets) :
    ∃ octets, joinFields fields = .ok octets := by
  induction fields with
  | nil => exact ⟨[], rfl⟩
  | cons field rest ih =>
    obtain ⟨first, hfirst⟩ := h field List.mem_cons_self
    obtain ⟨others, hothers⟩ := ih fun f hf => h f (List.mem_cons_of_mem _ hf)
    exact ⟨first ++ others, joinFields_cons_eq_ok.2 ⟨first, others, hfirst, hothers, rfl⟩⟩

/-- The first field that does not fit is reported. -/
theorem joinFields_error {before rest : List (Except Fault (List UInt8))} {fault : Fault}
    (h : ∀ field ∈ before, ∃ octets, field = .ok octets) :
    joinFields (before ++ .error fault :: rest) = .error fault := by
  induction before with
  | nil => rfl
  | cons field before ih =>
    obtain ⟨first, rfl⟩ := h field List.mem_cons_self
    rw [List.cons_append, joinFields, ih fun f hf => h f (List.mem_cons_of_mem _ hf)]
    rfl

end Packet

/-! ## Answers -/

/-- The fields of the template fit the wire. -/
structure Template.OnWire (t : Template) : Prop where
  leap : 0 ≤ t.leap ∧ t.leap ≤ 3
  stratum : 0 ≤ t.stratum ∧ t.stratum ≤ 255
  poll : 0 ≤ t.poll ∧ t.poll ≤ 255
  precision : -128 ≤ t.precision ∧ t.precision ≤ 127
  rootDelay : t.rootDelay.Within 65536
  rootDispersion : t.rootDispersion.Within 65536
  refId : 0 ≤ t.refId ∧ t.refId < 2 ^ 32
  refTime : t.refTime.Within (2 ^ 32)

namespace Template

variable {t : Template} {request : Packet} {received sent : Binary64}

/-- What an answer is written from: its fixed-point numbers, of which only that of the request's
own time may not fit. -/
theorem encode_answer (ht : t.OnWire) (hreceived : (toEpoch received).Within (2 ^ 32))
    (hsent : (toEpoch sent).Within (2 ^ 32)) {orig : Int}
    (horig : Packet.fixedPoint 32 request.sentTime = .ok orig) :
    ∃ before after, (t.answer request received sent).encode =
        Packet.joinFields (before ++ Packet.place 8 orig :: after) ∧
      (∀ field ∈ before, ∃ octets, field = .ok octets) ∧
      ∀ field ∈ after, ∃ octets, field = .ok octets := by
  obtain ⟨delay, hdelay, hdelayLt⟩ := Packet.fixedPoint_of_within 16 ht.rootDelay
  obtain ⟨dispersion, hdispersion, hdispersionLt⟩ :=
    Packet.fixedPoint_of_within 16 ht.rootDispersion
  obtain ⟨ref, href, hrefLt⟩ := Packet.fixedPoint_of_within 32 ht.refTime
  obtain ⟨recv, hrecv, hrecvLt⟩ := Packet.fixedPoint_of_within 32 hreceived
  obtain ⟨sending, hsending, hsendingLt⟩ := Packet.fixedPoint_of_within 32 hsent
  have hversion := (t.answer request received sent).version.isLt
  refine ⟨[Packet.place 1
        (t.leap * 64 + (t.answer request received sent).version.val * 8 + serverMode.val),
      Packet.place 1 t.stratum, Packet.place 1 t.poll, Packet.placeSigned t.precision,
      Packet.place 4 delay, Packet.place 4 dispersion, Packet.place 4 t.refId, Packet.place 8 ref],
    [Packet.place 8 recv, Packet.place 8 sending], ?_, ?_, ?_⟩
  · simp only [Packet.encode, answer, hdelay, hdispersion, href, horig, hrecv, hsending, bind,
      Except.bind]
    rfl
  · -- The first octet holds three fields, each of them below its share.
    obtain ⟨hleap, hstratum, hpoll, hprecision, -, -, hrefId, -⟩ := ht
    have hmode : ((serverMode.val : Nat) : Int) = 4 := rfl
    simp only [List.forall_mem_cons, List.not_mem_nil, false_implies, implies_true, and_true]
    refine ⟨?_, ?_, ?_, ⟨_, if_pos (by omega)⟩, ?_, ?_, ?_, ?_⟩ <;>
      exact Packet.exists_place (by omega) (by omega)
  · simp only [List.forall_mem_cons, List.not_mem_nil, false_implies, implies_true, and_true]
    refine ⟨?_, ?_⟩ <;> exact Packet.exists_place (by omega) (by omega)

/-- A request whose time of sending is in range gets an answer. -/
theorem exists_reply (ht : t.OnWire) (hreceived : (toEpoch received).Within (2 ^ 32))
    (hsent : (toEpoch sent).Within (2 ^ 32)) (hrequest : request.sentTime.Within (2 ^ 32))
    (raw : Option (List UInt8)) : ∃ octets, t.reply request raw received sent = .ok octets := by
  obtain ⟨orig, horig, hlt⟩ := Packet.fixedPoint_of_within 32 hrequest
  obtain ⟨before, after, hencode, hbefore, hafter⟩ := encode_answer ht hreceived hsent horig
  have hplace : ∃ octets, Packet.place 8 orig = .ok octets :=
    Packet.exists_place (Int.natCast_nonneg orig) (by omega)
  have hall : ∀ field ∈ before ++ Packet.place 8 orig :: after, ∃ octets, field = .ok octets := by
    intro field hfield
    obtain hfield | hfield := List.mem_append.1 hfield
    · exact hbefore field hfield
    · obtain heq | hfield := List.mem_cons.1 hfield
      · rw [heq]
        exact hplace
      · exact hafter field hfield
  obtain ⟨octets, hjoined⟩ := Packet.exists_joinFields hall
  rw [hjoined] at hencode
  unfold reply
  rw [hencode]
  exact ⟨_, rfl⟩

/-- A request whose time of sending is rounded up to `2 ^ 32` gets none. -/
theorem reply_of_roundsUp (ht : t.OnWire) (hreceived : (toEpoch received).Within (2 ^ 32))
    (hsent : (toEpoch sent).Within (2 ^ 32)) {n : Nat}
    (hrequest : request.sentTime = Packet.withPlaces 32 n) (hlow : roundsUp ≤ n)
    (hhigh : n < 2 ^ 64) (raw : Option (List UInt8)) :
    t.reply request raw received sent = .error .packetField := by
  have horig := Packet.fixedPoint_of_roundsUp hlow hhigh
  rw [← hrequest] at horig
  obtain ⟨before, after, hencode, hbefore, -⟩ := encode_answer ht hreceived hsent horig
  rw [Packet.place_of_le (by decide), Packet.joinFields_error hbefore] at hencode
  unfold reply
  rw [hencode]
  rfl

end Template

/-! ## Datagrams -/

namespace Responder

/-- A field of the first packet of some data is a field of the data. -/
theorem field_take {start count : Nat} (data : List UInt8) (h : start + count ≤ packetSize) :
    Packet.field (data.take packetSize) start count = Packet.field data start count := by
  unfold Packet.field
  rw [List.drop_take, List.take_take, Nat.min_eq_left (by omega)]

/-- A request is a whole packet, and its time of sending is read from its last octets. -/
theorem request?_eq_some {data : List UInt8} {request : Packet} (h : request? data = some request) :
    packetSize ≤ (data.take packetSize).length ∧
      request.sentTime = Packet.withPlaces 32 (Packet.field data 40 8) := by
  unfold request? Packet.decode at h
  by_cases hshort : (data.take packetSize).length < packetSize
  · rw [if_pos hshort] at h
    cases h
  · rw [if_neg hshort] at h
    refine ⟨Nat.not_lt.1 hshort, ?_⟩
    simp only at h
    split at h
    · have hsent := congrArg Packet.sentTime (Option.some.inj h)
      simp only at hsent
      rw [← hsent, field_take data (by decide)]
    · cases h

/-- A time on the wire has 64 bits. -/
theorem field_lt (data : List UInt8) (start : Nat) : Packet.field data start 8 < 2 ^ 64 := by
  refine Nat.lt_of_lt_of_le (ofOctets_lt _) ?_
  have hlength : ((data.drop start).take 8).length ≤ 8 := List.length_take_le ..
  exact Nat.pow_le_pow_right (by decide) hlength

/-- The datagram is a request of a client that is answered, and its time of sending is rounded up to
`2 ^ 32`. -/
def Overflows (r : Responder) (data : List UInt8) (address : String) (monotonic : Binary64) :
    Prop :=
  (r.dropTable.step address monotonic).1 = .ok true ∧ (request? data).isSome = true ∧
    roundsUp ≤ Packet.field data 40 8

/-- The result of a datagram, by the decision of the drop table. -/
theorem handle_fst (r : Responder) (t : Template) (data : List UInt8) (address : String)
    (arrived now monotonic : Binary64) :
    (r.handle t data address arrived now monotonic).1 =
      match (r.dropTable.step address monotonic).1 with
      | .error fault => .error fault
      | .ok false => .ok none
      | .ok true =>
        match request? data with
        | none => .ok none
        | some request => (t.reply request (some (data.take packetSize)) arrived now).map some := by
  unfold handle
  rcases hstep : r.dropTable.step address monotonic with ⟨decision, dropTable⟩
  simp only [hstep]
  cases decision with
  | error fault => rfl
  | ok allowed =>
    cases allowed with
    | false => rfl
    | true =>
      simp only [answer]
      cases request? data <;> rfl

/-- The drop table can decide when its interval is a number. -/
theorem exists_step {table : DropTable} (h : table.rateInterval.number?.isSome = true)
    (address : String) (monotonic : Binary64) :
    ∃ allowed, (table.step address monotonic).1 = .ok allowed := by
  obtain ⟨interval, hinterval⟩ := Option.isSome_iff_exists.1 h
  have hverdict : ∃ verdict, table.verdict address monotonic = .ok verdict := by
    unfold DropTable.verdict
    split
    · exact ⟨_, rfl⟩
    · split
      · exact ⟨_, rfl⟩
      · split
        · exact ⟨_, rfl⟩
        · unfold DropTable.isTooSoon Document.limitFor
          split
          · rw [hinterval]
            exact ⟨_, rfl⟩
          · exact ⟨_, rfl⟩
  obtain ⟨verdict, hverdict⟩ := hverdict
  exact ⟨verdict.isAllowed, by rw [DropTable.step, hverdict]⟩

/-- The responder survives a datagram: it leaves it unanswered or answers with one packet. -/
def Survives (result : Except Fault (Option (List UInt8))) : Prop :=
  result = .ok none ∨ ∃ octets, result = .ok (some octets) ∧ octets.length = packetSize

/-- A datagram whose time of sending is rounded up to `2 ^ 32` ends in a fault. -/
theorem handle_of_overflows {t : Template} (ht : t.OnWire) {arrived now : Binary64}
    (harrived : (toEpoch arrived).Within (2 ^ 32)) (hnow : (toEpoch now).Within (2 ^ 32))
    {r : Responder} {data : List UInt8} {address : String} {monotonic : Binary64}
    (h : r.Overflows data address monotonic) :
    (r.handle t data address arrived now monotonic).1 = .error .packetField := by
  obtain ⟨hallowed, hsome, hlow⟩ := h
  obtain ⟨request, hrequest⟩ := Option.isSome_iff_exists.1 hsome
  obtain ⟨-, hsent⟩ := request?_eq_some hrequest
  rw [handle_fst, hallowed]
  simp only [hrequest]
  rw [Template.reply_of_roundsUp ht harrived hnow hsent hlow (field_lt data 40)]
  rfl

/-- The responder survives exactly the datagrams about whose clients the drop table can decide and
whose time of sending is not rounded up to `2 ^ 32`. The fault of the others of which it can decide
is that of a field that does not fit, and it can decide about every client when its interval is a
number. -/
theorem handle_survives_iff {t : Template} (ht : t.OnWire) {arrived now : Binary64}
    (harrived : (toEpoch arrived).Within (2 ^ 32)) (hnow : (toEpoch now).Within (2 ^ 32))
    (r : Responder) (data : List UInt8) (address : String) (monotonic : Binary64) :
    (Survives (r.handle t data address arrived now monotonic).1 ↔
      (∃ allowed, (r.dropTable.step address monotonic).1 = .ok allowed) ∧
        ¬ r.Overflows data address monotonic) ∧
    (r.Overflows data address monotonic →
      (r.handle t data address arrived now monotonic).1 = .error .packetField) ∧
    (r.dropTable.rateInterval.number?.isSome = true →
      ∃ allowed, (r.dropTable.step address monotonic).1 = .ok allowed) := by
  refine ⟨⟨?_, ?_⟩, handle_of_overflows ht harrived hnow,
    fun h => exists_step h address monotonic⟩
  · intro hsurvives
    constructor
    · rw [handle_fst] at hsurvives
      cases hstep : (r.dropTable.step address monotonic).1 with
      | ok allowed => exact ⟨allowed, rfl⟩
      | error fault =>
        rw [hstep] at hsurvives
        obtain h | ⟨octets, h, -⟩ := hsurvives <;> cases h
    · intro h
      rw [handle_of_overflows ht harrived hnow h] at hsurvives
      obtain h | ⟨octets, h, -⟩ := hsurvives <;> cases h
  · -- A datagram that gets no answer is survived, so only the answer to a request is left.
    rintro ⟨⟨allowed, hallowed⟩, hfits⟩
    rw [handle_fst, hallowed]
    cases allowed with
    | false => exact .inl rfl
    | true =>
      cases hrequest : request? data with
      | none => exact .inl rfl
      | some request =>
        obtain ⟨hwhole, hsent⟩ := request?_eq_some hrequest
        have hlow : Packet.field data 40 8 < roundsUp := by
          refine Nat.not_le.1 fun hle => hfits ⟨hallowed, ?_, hle⟩
          rw [hrequest]
          rfl
        have hrange : request.sentTime.Within (2 ^ 32) := by
          rw [hsent]
          exact Packet.withPlaces_within hlow
        obtain ⟨octets, hreply⟩ :=
          Template.exists_reply ht harrived hnow hrange (some (data.take packetSize))
        refine .inr ⟨octets, by simp only [hreply]; rfl, ?_⟩
        refine Template.length_of_reply ?_ hreply
        intro whole heq
        rw [← Option.some.inj heq]
        exact hwhole

/-- A request that was sent at the given time on the wire. -/
def requestAt (time : List UInt8) : List UInt8 := 0x23 :: List.replicate 39 0 ++ time

/-- The template of a host that is not synchronized fits the wire. -/
theorem onWire_default : ({} : Template).OnWire :=
  ⟨by decide, by decide, by decide, by decide, by decide +kernel, by decide +kernel, by decide,
    by decide +kernel⟩

/-- The end of the year 2023 is in the range of the times on the wire. -/
theorem within_wallClock : (toEpoch (.ofInt 1700000000)).Within (2 ^ 32) := by decide +kernel

/-- A request from the beginning of time is survived. -/
theorem survives_requestAt_zero :
    Survives (({ endpoint := ⟨"0.0.0.0", 123⟩ } : Responder).handle {}
      (requestAt (List.replicate 8 0)) "192.0.2.1" (.ofInt 1700000000) (.ofInt 1700000000)
      (.ofInt 1000)).1 := by
  refine (handle_survives_iff onWire_default within_wallClock within_wallClock _ _ _ _).1.2 ⟨?_, ?_⟩
  · exact exists_step (by decide) _ _
  · rintro ⟨-, -, hlow⟩
    exact absurd hlow (by decide)

/-- A request from the end of time is not. -/
theorem fault_of_requestAt_end :
    ¬ Survives (({ endpoint := ⟨"0.0.0.0", 123⟩ } : Responder).handle {}
      (requestAt (List.replicate 8 255)) "192.0.2.1" (.ofInt 1700000000) (.ofInt 1700000000)
      (.ofInt 1000)).1 := by
  have hallowed : (({} : DropTable).step "192.0.2.1" (.ofInt 1000)).1 = .ok true := by
    have hdecided : (({} : DropTable).step "192.0.2.1" (.ofInt 1000)).1.toOption = some true := by
      decide +kernel
    cases hstep : (({} : DropTable).step "192.0.2.1" (.ofInt 1000)).1 with
    | error fault =>
      rw [hstep] at hdecided
      cases hdecided
    | ok allowed =>
      rw [hstep] at hdecided
      exact congrArg _ (Option.some.inj hdecided)
  have hoverflows : Overflows { endpoint := ⟨"0.0.0.0", 123⟩ } (requestAt (List.replicate 8 255))
      "192.0.2.1" (.ofInt 1000) := ⟨hallowed, by decide +kernel, by decide +kernel⟩
  rw [handle_of_overflows onWire_default within_wallClock within_wallClock hoverflows]
  rintro (h | ⟨octets, h, -⟩) <;> cases h

end Responder

end Concord
