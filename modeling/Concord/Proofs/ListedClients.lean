import Concord.DropTable

/-!
# Clients in listed networks

Networks are listed by their texts. A network holds the addresses of its version that agree with its
base in the first bits, as many as the text says (`Block.contains_iff`), and bits of the text behind
these make no difference (`Block.contains_of_iff`).

A client whose address embeds one of the fourth version is looked up by the embedded address only,
so that a listed network of the sixth version holds none of these clients, though it may hold the
addresses that they are written with. The main statement `denies_exactly` says which clients are
denied for their network, and what a denial changes.
-/

namespace Concord

/-! ## Addresses that agree in their first bits -/

namespace Block

variable {width : Nat}

/-- The ones of a mask are its first bits. -/
theorem getMsbD_mask {length : Nat} (h : length ≤ width) (i : Nat) :
    (mask width length).getMsbD i = decide (i < length) := by
  rw [mask, BitVec.getMsbD_shiftLeft, BitVec.getMsbD_allOnes]
  exact decide_eq_decide.2 (by omega)

/-- The block of a word holds the words that agree with it in the first bits. -/
theorem contains_of_iff (word other : BitVec width) {length : Nat} (h : length ≤ width) :
    (of word length h).contains other = true ↔
      ∀ i < length, other.getMsbD i = word.getMsbD i := by
  rw [mem_of]
  constructor
  · intro heq i hi
    have hbit := congrArg (BitVec.getMsbD · i) heq
    simpa [getMsbD_mask h, hi] using hbit
  · intro hagree
    refine BitVec.eq_of_getMsbD_eq fun i _ => ?_
    rw [BitVec.getMsbD_and, BitVec.getMsbD_and, getMsbD_mask h]
    by_cases hi : i < length
    · rw [hagree i hi]
    · simp [hi]

/-- A block is the block of its base. -/
theorem of_base (block : Block width) : of block.base block.length block.length_le = block := by
  cases block with
  | mk base length hlength haligned => simp only [of, haligned]

/-- A block holds the words that agree with its base in the first bits. -/
theorem contains_iff (block : Block width) (word : BitVec width) :
    block.contains word = true ↔ ∀ i < block.length, word.getMsbD i = block.base.getMsbD i := by
  rw [← contains_of_iff block.base word block.length_le, of_base]

end Block

namespace Network

/-- The address has the version of the network, and the first bits of both are equal. -/
def Covers : Network → Address → Prop
  | v4 block, .v4 bits => ∀ i < block.length, bits.getMsbD i = block.base.getMsbD i
  | v6 block _, .v6 bits => ∀ i < block.length, bits.getMsbD i = block.base.getMsbD i
  | _, _ => False

/-- These are the addresses that the network holds. -/
theorem contains_iff_covers (network : Network) (a : Address) :
    network.contains a = true ↔ network.Covers a := by
  cases network with
  | v4 block =>
    cases a with
    | v4 bits => exact block.contains_iff bits
    | v6 bits => exact ⟨Bool.noConfusion, False.elim⟩
  | v6 block zone =>
    cases a with
    | v4 bits => exact ⟨Bool.noConfusion, False.elim⟩
    | v6 bits => exact block.contains_iff bits

/-- The address lies in one of the networks that the texts list. -/
def Listed (cidrs : List String) (a : Address) : Prop :=
  ∃ cidr ∈ cidrs, ∃ network, ofText cidr = .ok network ∧ network.Covers a

end Network

/-! ## Embedded addresses -/

namespace Address

/-- The address of the sixth version that embeds one of the fourth: sixteen ones stand before it,
and nothing but zeros before these. -/
def embedding (bits : BitVec 32) : Address := v6 (0xffff#96 ++ bits)

/-- The number of an embedding address. -/
theorem toNat_embedding (bits : BitVec 32) :
    (0xffff#96 ++ bits).toNat = 0xffff * 2 ^ 32 + bits.toNat := by
  rw [BitVec.toNat_append, ← Nat.shiftLeft_add_eq_or_of_lt bits.isLt, Nat.shiftLeft_eq]
  rfl

/-- The embedded address is taken out. -/
theorem unmapped_embedding (bits : BitVec 32) : (embedding bits).unmapped = v4 bits := by
  have hlt := bits.isLt
  have hnat := toNat_embedding bits
  rw [embedding, unmapped, if_pos (by omega)]
  refine congrArg v4 (BitVec.eq_of_toNat_eq ?_)
  rw [BitVec.toNat_ofNat]
  omega

/-- Any other address stays as it is. -/
theorem unmapped_of_ne {a : Address} (h : ∀ bits, a ≠ embedding bits) : a.unmapped = a := by
  cases a with
  | v4 bits => rfl
  | v6 bits =>
    rw [unmapped]
    refine if_neg fun hhigh => h (.ofNat 32 bits.toNat) ?_
    have hnat := toNat_embedding (.ofNat 32 bits.toNat)
    rw [BitVec.toNat_ofNat] at hnat
    rw [embedding, v6.injEq]
    refine BitVec.eq_of_toNat_eq ?_
    omega

end Address

namespace DropTable

open Network (Listed)

/-! ## Denials -/

/-- The networks of a table are those of the texts that list them. -/
theorem mem_networks_iff {cidrs : List String} {networks : List Network}
    (h : networksOf (.list (cidrs.map .text)) = .ok networks) (network : Network) :
    network ∈ networks ↔ ∃ cidr ∈ cidrs, Network.ofText cidr = .ok network := by
  change (cidrs.map Document.text).mapM networkOf = .ok networks at h
  induction cidrs generalizing networks with
  | nil =>
    cases h
    simp
  | cons cidr rest ih =>
    rw [List.map_cons, List.mapM_cons] at h
    obtain ⟨first, hfirst, h⟩ := bind_eq_ok.1 h
    obtain ⟨others, hothers, h⟩ := bind_eq_ok.1 h
    cases h
    have hread : Network.ofText cidr = .ok first := by
      simpa only [networkOf, Document.textFor, mapError_eq_ok] using hfirst
    simp only [List.mem_cons, ih hothers, exists_eq_or_imp, hread, Except.ok.injEq,
      eq_comm (a := network)]

/-- The client is denied for its network: it is looked up by the address that its own embeds, and
by its own only if that embeds none. -/
def Denies (cidrs : List String) (a : Address) : Prop :=
  (∃ bits, a = .embedding bits ∧ Listed cidrs (.v4 bits)) ∨
    (∀ bits, a ≠ .embedding bits) ∧ Listed cidrs a

variable {t : DropTable} {cidrs : List String} {text : String} {a : Address}

/-- An address is in one of the table's networks if it is in one of those listed. -/
theorem any_contains_iff (h : networksOf (.list (cidrs.map .text)) = .ok t.networks)
    (client : Address) :
    t.networks.any (·.contains client) = true ↔ Listed cidrs client := by
  rw [List.any_eq_true]
  constructor
  · rintro ⟨network, hnetwork, hcontains⟩
    obtain ⟨cidr, hcidr, hread⟩ := (mem_networks_iff h network).1 hnetwork
    exact ⟨cidr, hcidr, network, hread, (network.contains_iff_covers client).1 hcontains⟩
  · rintro ⟨cidr, hcidr, network, hread, hcovers⟩
    exact ⟨network, (mem_networks_iff h network).2 ⟨cidr, hcidr, hread⟩,
      (network.contains_iff_covers client).2 hcovers⟩

/-- The clients denied are those whose address, taken out where it is embedded, is listed. -/
theorem denies_iff_unmapped : Denies cidrs a ↔ Listed cidrs a.unmapped := by
  by_cases hembeds : ∃ bits, a = .embedding bits
  · obtain ⟨bits, rfl⟩ := hembeds
    rw [Address.unmapped_embedding]
    constructor
    · rintro (⟨other, heq, hlisted⟩ | ⟨hnone, -⟩)
      · have hbits := congrArg Address.unmapped heq
        rw [Address.unmapped_embedding, Address.unmapped_embedding] at hbits
        rwa [hbits]
      · exact absurd rfl (hnone bits)
    · exact fun hlisted => .inl ⟨bits, rfl, hlisted⟩
  · have hnone : ∀ bits, a ≠ .embedding bits := fun bits heq => hembeds ⟨bits, heq⟩
    rw [Address.unmapped_of_ne hnone]
    exact ⟨fun h => h.elim (fun ⟨bits, heq, _⟩ => absurd heq (hnone bits)) And.right,
      fun hlisted => .inr ⟨hnone, hlisted⟩⟩

/-- The verdict on a client is that it is listed exactly if it is denied for its network. -/
theorem verdict_eq_listed_iff (h : networksOf (.list (cidrs.map .text)) = .ok t.networks)
    (ha : Address.readHost? text = some a) (now : Binary64) :
    t.verdict text now = .ok .listed ↔ Denies cidrs a := by
  have hclient : client? text = some a.unmapped := congrArg (Option.map Address.unmapped) ha
  have heq : t.verdict text now =
      if t.networks.any (·.contains a.unmapped) then .ok .listed
      else if t.isOff then .ok (.allowed none)
      else (t.isTooSoon a.unmapped now).map fun soon =>
        if soon then .tooSoon else .allowed (some a.unmapped) := by
    rw [verdict, hclient]
  rw [denies_iff_unmapped, ← any_contains_iff h, heq]
  refine ⟨fun hlisted => ?_, fun hany => if_pos hany⟩
  cases hany : t.networks.any (·.contains a.unmapped) with
  | true => rfl
  | false =>
    rw [hany, if_neg Bool.false_ne_true] at hlisted
    split at hlisted
    · cases hlisted
    · cases hsoon : t.isTooSoon a.unmapped now with
      | error fault => rw [hsoon] at hlisted; cases hlisted
      | ok soon => rw [hsoon] at hlisted; cases soon <;> cases hlisted

/-- No other decision is counted as a denial for the network. -/
theorem droppedListed_step {now : Binary64} (h : t.verdict text now ≠ .ok .listed) :
    (t.step text now).2.droppedListed = t.droppedListed := by
  unfold step
  cases hverdict : t.verdict text now with
  | error fault => rfl
  | ok verdict =>
    cases verdict with
    | listed => exact absurd hverdict h
    | unreadable | tooSoon => rfl
    | allowed client => cases client <;> rfl

/-- Of a table with listed networks, in whatever state it is, a request from a readable address is
denied for the network exactly if the address embeds one of the fourth version that is listed, or
embeds none and is listed itself. A denial counts one more and changes nothing else, and no other
decision is counted as one. So a client whose address as written is listed is denied exactly if
there is no address embedded in it or that one is listed, too. -/
theorem denies_exactly (h : networksOf (.list (cidrs.map .text)) = .ok t.networks)
    (ha : Address.readHost? text = some a) (now : Binary64) :
    (t.verdict text now = .ok .listed ↔ Denies cidrs a) ∧
    (Denies cidrs a →
      t.step text now = (.ok false, { t with droppedListed := t.droppedListed + 1 })) ∧
    (¬ Denies cidrs a → (t.step text now).2.droppedListed = t.droppedListed) ∧
    (Listed cidrs a →
      (t.step text now = (.ok false, { t with droppedListed := t.droppedListed + 1 }) ↔
        ∀ bits, a = .embedding bits → Listed cidrs (.v4 bits))) := by
  have hverdict := verdict_eq_listed_iff h ha now
  have hdenied : Denies cidrs a →
      t.step text now = (.ok false, { t with droppedListed := t.droppedListed + 1 }) := by
    intro hdenies
    rw [step, hverdict.2 hdenies]
    rfl
  have hkept : ¬ Denies cidrs a → (t.step text now).2.droppedListed = t.droppedListed :=
    fun hnot => droppedListed_step (hnot ∘ hverdict.1)
  refine ⟨hverdict, hdenied, hkept, fun hlisted => ⟨?_, ?_⟩⟩
  · rintro hstep bits rfl
    by_cases hdenies : Denies cidrs (.embedding bits)
    · rw [denies_iff_unmapped, Address.unmapped_embedding] at hdenies
      exact hdenies
    · have hcount := hkept hdenies
      rw [hstep] at hcount
      exact absurd hcount (Nat.succ_ne_self _)
  · intro hembedded
    refine hdenied ?_
    by_cases hembeds : ∃ bits, a = .embedding bits
    · obtain ⟨bits, heq⟩ := hembeds
      exact .inl ⟨bits, heq, hembedded bits heq⟩
    · exact .inr ⟨fun bits heq => hembeds ⟨bits, heq⟩, hlisted⟩

/-- A client of a listed network of the fourth version is denied, also if its address comes
embedded. -/
theorem denied_of_embeddedClient :
    let t : DropTable := { networks := [.v4 (.of 0x0a000000 8 (by decide))] }
    t.step "::ffff:10.0.0.1" (.ofInt 1) = (.ok false, { t with droppedListed := 1 }) := by
  intro t
  have hnetworks : networksOf (.list (["10.0.0.0/8"].map .text)) = .ok t.networks :=
    eq_ok_of_toOption (by decide +kernel)
  have hread : Address.readHost? "::ffff:10.0.0.1" = some (.embedding 0x0a000001) := by
    decide +kernel
  have hdenies : Denies ["10.0.0.0/8"] (.embedding 0x0a000001) := by
    refine .inl ⟨0x0a000001, rfl, "10.0.0.0/8", List.mem_singleton_self _,
      .v4 (.of 0x0a000000 8 (by decide)), eq_ok_of_toOption (by decide +kernel), ?_⟩
    show ∀ i < 8, _
    decide
  exact (denies_exactly hnetworks hread (.ofInt 1)).2.1 hdenies

/-- All addresses of the sixth version are listed, and a client with one of them is allowed, since
there is an address embedded in it. -/
theorem allowed_of_embeddedClient :
    let t : DropTable := { networks := [.v6 (.of 0 0 (by decide)) none], rateSize := .int 0 }
    networksOf (.list (["::/0"].map .text)) = .ok t.networks ∧
      Address.readHost? "::ffff:192.0.2.1" = some (.embedding 0xc0000201) ∧
      Listed ["::/0"] (.embedding 0xc0000201) ∧
      t.step "::ffff:192.0.2.1" (.ofInt 1) = (.ok true, t) := by
  intro t
  have hnetworks : networksOf (.list (["::/0"].map .text)) = .ok t.networks :=
    eq_ok_of_toOption (by decide +kernel)
  have hread : Address.readHost? "::ffff:192.0.2.1" = some (.embedding 0xc0000201) := by
    decide +kernel
  have hlisted : Listed ["::/0"] (.embedding 0xc0000201) :=
    ⟨"::/0", List.mem_singleton_self _, .v6 (.of 0 0 (by decide)) none,
      eq_ok_of_toOption (by decide +kernel), fun i hi => absurd hi (Nat.not_lt_zero i)⟩
  have hanswer : (t.step "::ffff:192.0.2.1" (.ofInt 1)).1 = .ok true :=
    eq_ok_of_toOption (by decide +kernel)
  have hleft : (t.step "::ffff:192.0.2.1" (.ofInt 1)).2 = t := by decide +kernel
  exact ⟨hnetworks, hread, hlisted, Prod.ext hanswer hleft⟩

end DropTable

end Concord
