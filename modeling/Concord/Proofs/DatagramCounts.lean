import Concord.Proofs.ReplyOctets

/-!
# What becomes of datagrams

A datagram is refused by the drop table, or is no request, or is answered, and it is counted as one
of these besides being counted as received, also when the answer comes to a fault. An answer is no
longer than the datagram, and as its mode is that of a server, no responder answers it: two
responders never keep each other busy.

The main statement is `accounts_after`: the counts after any calls, and what any further call makes
of them (`Accounts`).
-/

namespace Concord

/-- The first octet of a packet holds the mode in its last bits. -/
theorem Packet.mode_of_encode {p : Packet} {octets : List UInt8} (h : p.encode = .ok octets) :
    ∃ first rest, octets = first :: rest ∧ first.toNat % 8 = p.mode.val := by
  simp only [encode, bind_eq_ok, joinFields_cons_eq_ok] at h
  obtain ⟨-, -, -, -, -, -, -, -, -, -, -, -, first, rest, hfirst, -, rfl⟩ := h
  obtain ⟨⟨hlow, hhigh⟩, rfl⟩ := place_eq_ok hfirst
  have hmode := p.mode.isLt
  refine ⟨_, rest, rfl, ?_⟩
  rw [UInt8.toNat_ofNat']
  omega

/-- An answer starts with an octet whose mode is that of a server. -/
theorem Template.mode_of_reply {t : Template} {request : Packet} {raw : Option (List UInt8)}
    {received sent : Binary64} {octets : List UInt8}
    (h : t.reply request raw received sent = .ok octets) :
    (octets.headD 0).toNat % 8 = serverMode.val := by
  simp only [reply, bind_eq_ok] at h
  obtain ⟨encoded, hencoded, h⟩ := h
  obtain ⟨first, rest, rfl, hmode⟩ := Packet.mode_of_encode hencoded
  cases raw with
  | none =>
    cases h
    exact hmode
  | some data =>
    cases h
    exact hmode

namespace Responder

/-- A call of the responder: the template at the time, the datagram and where it came from, and the
clocks. -/
structure Call where
  template : Template
  data : List UInt8
  address : String
  arrived : Binary64
  now : Binary64
  monotonic : Binary64

/-- What a call comes to. -/
def result (r : Responder) (call : Call) : Except Fault (Option (List UInt8)) :=
  (r.handle call.template call.data call.address call.arrived call.now call.monotonic).1

/-- The responder after a call. -/
def next (r : Responder) (call : Call) : Responder :=
  (r.handle call.template call.data call.address call.arrived call.now call.monotonic).2

/-- The responder after calls. -/
def after (r : Responder) (calls : List Call) : Responder := calls.foldl next r

/-- What the drop table says about a call. -/
def decision (r : Responder) (call : Call) : Except Fault Bool :=
  (r.dropTable.step call.address call.monotonic).1

/-- The numbers of datagrams that were answered, dropped and malformed. -/
def counts (r : Responder) : Nat × Nat × Nat := (r.answered, r.dropped, r.malformed)

/-- Every datagram received was counted once more. -/
def Balanced (r : Responder) : Prop := r.received = r.answered + r.dropped + r.malformed

/-- How a call is accounted for. -/
structure Accounts (r : Responder) (call : Call) : Prop where
  /-- The drop table decides. -/
  decides : r.decision call = .ok false ∨ r.decision call = .ok true
  /-- A datagram that the drop table refuses is dropped. -/
  dropped : r.decision call = .ok false →
    (r.next call).counts = (r.answered, r.dropped + 1, r.malformed) ∧ r.result call = .ok none
  /-- Another one that is no request is malformed. -/
  malformed : r.decision call = .ok true → ¬ IsRequest call.data →
    (r.next call).counts = (r.answered, r.dropped, r.malformed + 1) ∧ r.result call = .ok none
  /-- Any other is answered, whether or not the answer comes to a fault. -/
  answered : r.decision call = .ok true → IsRequest call.data →
    (r.next call).counts = (r.answered + 1, r.dropped, r.malformed) ∧ r.result call ≠ .ok none
  /-- Only the octets of one packet count. -/
  firstPacket : ∀ data, data.take packetSize = call.data.take packetSize →
    r.result { call with data } = r.result call ∧ r.next { call with data } = r.next call
  /-- An answer is no longer than the datagram. -/
  length_le : ∀ octets, r.result call = .ok (some octets) → octets.length ≤ call.data.length
  /-- No responder answers an answer. -/
  unanswered : ∀ octets, r.result call = .ok (some octets) →
    ∀ (other : Responder) (back : Call), back.data = octets →
      (∀ reply, other.result back ≠ .ok (some reply)) ∧
        (other.next back).answered = other.answered

variable {r : Responder} {call : Call}

/-! ## One call -/

/-- One more datagram is received with every call. -/
theorem received_next (r : Responder) (call : Call) : (r.next call).received = r.received + 1 :=
  received_handle ..

/-- A call adds one to one of the counts, unless the drop table cannot decide. -/
theorem counts_next (r : Responder) (call : Call) :
    (r.next call).counts =
      match r.decision call with
      | .error _ => r.counts
      | .ok false => (r.answered, r.dropped + 1, r.malformed)
      | .ok true =>
        if IsRequest call.data then (r.answered + 1, r.dropped, r.malformed)
        else (r.answered, r.dropped, r.malformed + 1) := by
  unfold decision next handle
  rcases hstep : r.dropTable.step call.address call.monotonic with ⟨decision, dropTable⟩
  simp only [hstep]
  cases decision with
  | error fault => rfl
  | ok allowed =>
    cases allowed with
    | false => rfl
    | true =>
      by_cases hrequest : IsRequest call.data
      · obtain ⟨request, hsome, -⟩ := request?_of_isRequest hrequest
        simp only [answer, hsome, if_pos hrequest]
        rfl
      · simp only [answer, request?_of_not_isRequest hrequest, if_neg hrequest]
        rfl

/-- What a call comes to, by the decision of the drop table. -/
theorem result_eq (r : Responder) (call : Call) :
    r.result call =
      match r.decision call with
      | .error fault => .error fault
      | .ok false => .ok none
      | .ok true =>
        match request? call.data with
        | none => .ok none
        | some request => (call.template.reply request (some (call.data.take packetSize))
            call.arrived call.now).map some := handle_fst ..

/-- An answer is that to a request which may be answered. -/
theorem reply_of_result {octets : List UInt8} (h : r.result call = .ok (some octets)) :
    packetSize ≤ call.data.length ∧ ∃ request, call.template.reply request
      (some (call.data.take packetSize)) call.arrived call.now = .ok octets := by
  rw [result_eq] at h
  split at h
  · cases h
  · cases h
  · split at h
    · cases h
    · rename_i request hsome
      refine ⟨?_, request, ?_⟩
      · have := (request?_eq_some hsome).1
        rw [List.length_take] at this
        omega
      · cases hreply : call.template.reply request (some (call.data.take packetSize))
            call.arrived call.now with
        | error fault =>
          rw [hreply] at h
          cases h
        | ok written =>
          rw [hreply] at h
          obtain rfl : written = octets := Option.some.inj (Except.ok.inj h)
          rfl

/-- An answer is one packet. -/
theorem length_of_result {octets : List UInt8} (h : r.result call = .ok (some octets)) :
    octets.length = packetSize ∧ packetSize ≤ call.data.length := by
  obtain ⟨hwhole, request, hreply⟩ := reply_of_result h
  refine ⟨Template.length_of_reply ?_ hreply, hwhole⟩
  intro data hdata
  obtain rfl := Option.some.inj hdata
  exact Nat.le_of_eq (List.length_take_of_le hwhole).symm

/-- An answer is no request. -/
theorem not_isRequest_of_result {octets : List UInt8} (h : r.result call = .ok (some octets)) :
    ¬ IsRequest octets := by
  obtain ⟨-, request, hreply⟩ := reply_of_result h
  rintro ⟨-, hclient⟩
  rw [Template.mode_of_reply hreply] at hclient
  exact absurd hclient (by decide)

/-- Nothing is sent for a datagram that is no request, and it does not count as answered. -/
theorem unanswered_of_not_isRequest (r : Responder) (h : ¬ IsRequest call.data) :
    (∀ reply, r.result call ≠ .ok (some reply)) ∧ (r.next call).answered = r.answered := by
  have hcounts := counts_next r call
  have hresult := result_eq r call
  simp only [if_neg h, request?_of_not_isRequest h] at hcounts hresult
  cases hdecision : r.decision call with
  | error fault =>
    rw [hdecision] at hcounts hresult
    exact ⟨by simp [hresult], congrArg Prod.fst hcounts⟩
  | ok allowed =>
    rw [hdecision] at hcounts hresult
    cases allowed <;> exact ⟨by simp [hresult], congrArg Prod.fst hcounts⟩

/-- Only the first octets of a datagram count, as many as a packet has. -/
theorem handle_congr (r : Responder) {data : List UInt8}
    (h : data.take packetSize = call.data.take packetSize) :
    r.result { call with data } = r.result call ∧ r.next { call with data } = r.next call := by
  have hhandle (t : Template) (address : String) (arrived now monotonic : Binary64) :
      r.handle t data address arrived now monotonic =
        r.handle t call.data address arrived now monotonic := by
    simp only [handle, answer, request?, h]
  exact ⟨congrArg Prod.fst (hhandle ..), congrArg Prod.snd (hhandle ..)⟩

/-- How a call is accounted for, if the drop table can decide. -/
theorem accounts_of_decides (h : ∃ allowed, r.decision call = .ok allowed) : r.Accounts call := by
  have hcounts := counts_next r call
  have hresult := result_eq r call
  exact {
    decides := by
      obtain ⟨allowed, hallowed⟩ := h
      cases allowed with
      | false => exact .inl hallowed
      | true => exact .inr hallowed
    dropped := by
      intro hrefused
      rw [hrefused] at hcounts hresult
      exact ⟨hcounts, hresult⟩
    malformed := by
      intro hallowed hrequest
      rw [hallowed] at hcounts hresult
      simp only [if_neg hrequest, request?_of_not_isRequest hrequest] at hcounts hresult
      exact ⟨hcounts, hresult⟩
    answered := by
      intro hallowed hrequest
      obtain ⟨request, hsome, -⟩ := request?_of_isRequest hrequest
      rw [hallowed] at hcounts hresult
      simp only [if_pos hrequest, hsome] at hcounts hresult
      refine ⟨hcounts, ?_⟩
      rw [hresult]
      cases call.template.reply request (some (call.data.take packetSize)) call.arrived
        call.now <;> nofun
    firstPacket := fun _ hdata => handle_congr r hdata
    length_le := by
      intro octets hoctets
      obtain ⟨hlength, hwhole⟩ := length_of_result hoctets
      exact hlength ▸ hwhole
    unanswered := by
      rintro octets hoctets other back rfl
      exact unanswered_of_not_isRequest other (not_isRequest_of_result hoctets) }

/-! ## Calls one after the other -/

/-- A call leaves the interval of the drop table as it is. -/
theorem rateInterval_next (r : Responder) (call : Call) :
    (r.next call).dropTable.rateInterval = r.dropTable.rateInterval := by
  have hstep (t : DropTable) (text : String) (now : Binary64) :
      (t.step text now).2.rateInterval = t.rateInterval := by
    unfold DropTable.step
    split
    · rfl
    · rename_i verdict _
      unfold DropTable.settle
      split <;> rfl
  have htable : (r.next call).dropTable =
      (r.dropTable.step call.address call.monotonic).2 := by
    unfold next handle
    rcases hdecided : r.dropTable.step call.address call.monotonic with ⟨decision, dropTable⟩
    simp only [hdecided]
    cases decision with
    | error fault => rfl
    | ok allowed =>
      cases allowed with
      | false => rfl
      | true =>
        simp only [answer]
        split <;> rfl
  rw [htable, hstep]

/-- The drop table can decide about every call. -/
def Decisive (r : Responder) : Prop := r.dropTable.rateInterval.number?.isSome = true

/-- A drop table that can decide still can after a call. -/
theorem Decisive.next (h : r.Decisive) (call : Call) : (r.next call).Decisive := by
  unfold Decisive at *
  rwa [rateInterval_next]

/-- A call keeps every datagram that was received counted once more. -/
theorem Balanced.next (h : r.Balanced) (hdecisive : r.Decisive) (call : Call) :
    (r.next call).Balanced := by
  have hreceived := received_next r call
  have hcounts := counts_next r call
  obtain ⟨allowed, hallowed⟩ := exists_step hdecisive call.address call.monotonic
  have hdecision : r.decision call = .ok allowed := hallowed
  rw [hdecision] at hcounts
  unfold Balanced at *
  cases allowed with
  | false =>
    simp only [counts, Prod.mk.injEq] at hcounts
    omega
  | true =>
    simp only at hcounts
    split at hcounts <;> simp only [counts, Prod.mk.injEq] at hcounts <;> omega

/-- After any calls every datagram is counted twice: as received, and as answered, dropped or
malformed. -/
theorem balanced_after (calls : List Call) (h : r.Balanced) (hdecisive : r.Decisive) :
    (r.after calls).received = r.received + calls.length ∧ (r.after calls).Balanced ∧
      (r.after calls).Decisive := by
  -- One call keeps all three, whatever responder it meets.
  induction calls generalizing r with
  | nil => exact ⟨rfl, h, hdecisive⟩
  | cons call rest ih =>
    obtain ⟨hreceived, hrest⟩ := ih (h.next hdecisive call) (hdecisive.next call)
    refine ⟨?_, hrest⟩
    rw [after, List.foldl_cons, ← after, hreceived, received_next, List.length_cons]
    omega

/-- After any calls of a responder whose drop table can decide, every call was counted as received,
and as one of the three besides. Any further call is accounted for, too. -/
theorem accounts_after (hdecisive : r.Decisive) (h : r.Balanced) (calls : List Call) :
    (r.after calls).received = r.received + calls.length ∧ (r.after calls).Balanced ∧
      ∀ call, (r.after calls).Accounts call := by
  obtain ⟨hreceived, hbalanced, hafter⟩ := balanced_after calls h hdecisive
  exact ⟨hreceived, hbalanced, fun call =>
    accounts_of_decides (exists_step hafter call.address call.monotonic)⟩

/-- A responder that lets a client be answered every two seconds, before the first datagram. -/
def freshResponder : Responder := { endpoint := ⟨"0.0.0.0", 123⟩ }

/-- A call of a client with the default template. -/
def callOf (data : List UInt8) (address : String) : Call :=
  ⟨{}, data, address, .ofInt 1700000000, .ofInt 1700000000, .ofInt 1000⟩

/-- A request, another one from the same client, a datagram that is too short, and a request from
the end of time, whose answer comes to a fault. -/
def mixedCalls : List Call :=
  [callOf (requestAt (List.replicate 8 0)) "192.0.2.1",
    callOf (requestAt (List.replicate 8 0)) "192.0.2.1", callOf [0x23] "192.0.2.2",
    callOf (requestAt (List.replicate 8 255)) "192.0.2.3"]

/-- Of these four calls two count as answered, one as dropped and one as malformed. -/
theorem balanced_mixedCalls : (freshResponder.after mixedCalls).received = 4 ∧
    (freshResponder.after mixedCalls).Balanced ∧
    (freshResponder.after mixedCalls).counts = (2, 1, 1) := by
  have hdecisive : freshResponder.Decisive := rfl
  have hstart : freshResponder.Balanced := rfl
  obtain ⟨hreceived, hbalanced, -⟩ := accounts_after hdecisive hstart mixedCalls
  exact ⟨hreceived, hbalanced, by decide +kernel⟩

end Responder

end Concord
