import Concord.Controller.Cycle
import Mathlib.Data.List.Basic

/-!
# Which peers are found

Names are looked up in a directory, and each of their addresses that it accepts becomes one peer.
No name and no address counts twice: of several places in a list, and of several names that lead to
one address, the first one counts that is of any use. Both the names and the addresses are gone
through in this way, which `KeepsFirsts` says once for lists of any items.

The main statement is `found_exactly`: for every directory and every list of names the peers found
are the ones that `Finds` describes, and the daemon has none exactly if no address of any name is
accepted.
-/

namespace Concord

/-! ## First items -/

/-- Of the items of a list that pass, the first one of each key is kept, in the order of the
list. -/
structure KeepsFirsts {α β : Type} [BEq α] (key : α → β) (passes : α → Prop)
    (items kept : List α) : Prop where
  first : ∀ a ∈ kept, a ∈ items ∧ passes a ∧
    ∀ b ∈ items, passes b → key b = key a → items.idxOf a ≤ items.idxOf b
  covers : ∀ b ∈ items, passes b → ∃ a ∈ kept, key a = key b
  inOrder : kept.Pairwise (items.idxOf · < items.idxOf ·)

namespace KeepsFirsts

variable {α β : Type} [BEq α] {key : α → β} {passes : α → Prop} {items kept : List α}
  {a : α}

/-- Of nothing, nothing is kept. -/
theorem nil : KeepsFirsts key passes [] [] := ⟨by simp, by simp, .nil⟩

/-- No key is kept twice. -/
theorem nodup (h : KeepsFirsts key passes items kept) : (kept.map key).Nodup := by
  rw [List.Nodup, List.pairwise_map]
  refine h.inOrder.imp_of_mem ?_
  intro a b ha hb hlt heq
  obtain ⟨hmem, hpass, -⟩ := h.first a ha
  exact Nat.not_le.2 hlt ((h.first b hb).2.2 a hmem hpass heq)

/-- The keys kept are those of the items that pass. -/
theorem mem_keys_iff (h : KeepsFirsts key passes items kept) {k : β} :
    k ∈ kept.map key ↔ ∃ a ∈ items, passes a ∧ key a = k := by
  rw [List.mem_map]
  constructor
  · rintro ⟨a, ha, rfl⟩
    obtain ⟨hmem, hpass, -⟩ := h.first a ha
    exact ⟨a, hmem, hpass, rfl⟩
  · rintro ⟨b, hb, hpass, rfl⟩
    exact h.covers b hb hpass

variable [LawfulBEq α]

/-- An item stays where it is when another one is added at the end. -/
theorem idxOf_of_mem_kept (h : KeepsFirsts key passes items kept) {x : α} (hx : x ∈ kept) :
    (items ++ [a]).idxOf x = items.idxOf x :=
  List.idxOf_append_of_mem (h.first x hx).1

/-- The order of what is kept stays, too. -/
theorem inOrder_append (h : KeepsFirsts key passes items kept) :
    kept.Pairwise ((items ++ [a]).idxOf · < (items ++ [a]).idxOf ·) :=
  h.inOrder.imp_of_mem fun hx hy hlt => by
    rw [h.idxOf_of_mem_kept hx, h.idxOf_of_mem_kept hy]
    exact hlt

/-- An item that passes is kept if its key is new. -/
theorem add (h : KeepsFirsts key passes items kept) (hpasses : passes a)
    (hnew : ∀ x ∈ kept, key x ≠ key a) : KeepsFirsts key passes (items ++ [a]) (kept ++ [a]) := by
  have hnone : ∀ b ∈ items, passes b → key b ≠ key a := by
    intro b hb hb' heq
    obtain ⟨x, hx, hkey⟩ := h.covers b hb hb'
    exact hnew x hx (hkey.trans heq)
  have hlast : (items ++ [a]).idxOf a = items.length := by
    rw [List.idxOf_append_of_notMem fun hmem => hnone a hmem hpasses rfl]
    simp
  refine ⟨?_, ?_, ?_⟩
  · intro x hx
    obtain hold | hlatest := List.mem_append.1 hx
    · obtain ⟨hmem, hpass, hfirst⟩ := h.first x hold
      refine ⟨List.mem_append_left _ hmem, hpass, ?_⟩
      intro b hb hb' heq
      obtain hb | hb := List.mem_append.1 hb
      · rw [h.idxOf_of_mem_kept hold, List.idxOf_append_of_mem hb]
        exact hfirst b hb hb' heq
      · rw [List.mem_singleton.1 hb] at heq
        exact absurd heq.symm (hnew x hold)
    · obtain rfl : x = a := List.mem_singleton.1 hlatest
      refine ⟨List.mem_append_right _ List.mem_cons_self, hpasses, ?_⟩
      intro b hb hb' heq
      obtain hb | hb := List.mem_append.1 hb
      · exact absurd heq (hnone b hb hb')
      · exact Nat.le_of_eq (by rw [List.mem_singleton.1 hb])
  · intro b hb hb'
    obtain hb | hb := List.mem_append.1 hb
    · obtain ⟨x, hx, hkey⟩ := h.covers b hb hb'
      exact ⟨x, List.mem_append_left _ hx, hkey⟩
    · exact ⟨b, List.mem_append_right _ hb, rfl⟩
  · refine List.pairwise_append.2 ⟨h.inOrder_append, List.pairwise_singleton _ _, ?_⟩
    intro x hx y hy
    rw [List.mem_singleton.1 hy, hlast, h.idxOf_of_mem_kept hx]
    exact List.idxOf_lt_length_of_mem (h.first x hx).1

/-- An item is left out if it does not pass or its key is not new. -/
theorem skip (h : KeepsFirsts key passes items kept)
    (hold : passes a → ∃ x ∈ kept, key x = key a) :
    KeepsFirsts key passes (items ++ [a]) kept := by
  refine ⟨?_, ?_, h.inOrder_append⟩
  · intro x hx
    obtain ⟨hmem, hpass, hfirst⟩ := h.first x hx
    refine ⟨List.mem_append_left _ hmem, hpass, ?_⟩
    intro b hb hb' heq
    rw [h.idxOf_of_mem_kept hx]
    by_cases hb : b ∈ items
    · rw [List.idxOf_append_of_mem hb]
      exact hfirst b hb hb' heq
    · -- The new item stands behind all others.
      rw [List.idxOf_append_of_notMem hb]
      exact Nat.le_trans List.idxOf_le_length (Nat.le_add_right _ _)
  · intro b hb hb'
    obtain hb | hb := List.mem_append.1 hb
    · exact h.covers b hb hb'
    · rw [List.mem_singleton.1 hb] at hb' ⊢
      exact hold hb'

/-- What stands earlier among what is kept stands earlier in the list. -/
theorem idxOf_lt (h : KeepsFirsts key passes items kept) {b : α} (ha : a ∈ kept) (hb : b ∈ kept)
    (hlt : kept.idxOf a < kept.idxOf b) : items.idxOf a < items.idxOf b := by
  have hla := List.idxOf_lt_length_of_mem ha
  have hlb := List.idxOf_lt_length_of_mem hb
  have := List.pairwise_iff_getElem.1 h.inOrder _ _ hla hlb hlt
  rwa [List.getElem_idxOf, List.getElem_idxOf] at this

end KeepsFirsts

/-! ## Names and addresses -/

namespace Directory

variable (directory : Directory) (defaults : PeerDefaults)

/-- The addresses of a name. -/
def addressesOf (name : String) : List String :=
  match directory.lookup (.text name) with
  | .addresses found => found
  | .failed _ => []

/-- The name leads to the address, and there is a peer for the two. -/
def Accepts (name address : String) : Prop :=
  address ∈ directory.addressesOf name ∧ ∃ p, directory.peer defaults name address = .ok p

/-- Names with their addresses. -/
def pooled (names : List String) : List (String × List String) :=
  names.map fun name => (name, directory.addressesOf name)

/-- The addresses of names, each with the name that leads to it. -/
def leads (names : List String) : List (String × String) :=
  names.flatMap fun name => (directory.addressesOf name).map (name, ·)

variable {directory} {defaults}

/-- A name leads to its addresses. -/
theorem mem_leads_iff {names : List String} {c : String × String} :
    c ∈ directory.leads names ↔ c.1 ∈ names ∧ c.2 ∈ directory.addressesOf c.1 := by
  obtain ⟨name, address⟩ := c
  simp only [leads, List.mem_flatMap, List.mem_map, Prod.mk.injEq]
  constructor
  · rintro ⟨_, hname, _, haddress, rfl, rfl⟩
    exact ⟨hname, haddress⟩
  · rintro ⟨hname, haddress⟩
    exact ⟨name, hname, address, haddress, rfl, rfl⟩

variable {name : String} {names : List String}

/-- The addresses of the first name stand at their places among them. -/
theorem idxOf_leads_self {address : String} (h : address ∈ directory.addressesOf name) :
    (directory.leads (name :: names)).idxOf (name, address) =
      (directory.addressesOf name).idxOf address := by
  have hpair (addresses : List String) :
      (addresses.map (name, ·)).idxOf (name, address) = addresses.idxOf address := by
    induction addresses with
    | nil => rfl
    | cons a rest ih =>
      by_cases ha : a = address
      · rw [ha, List.map_cons, List.idxOf_cons_self, List.idxOf_cons_self]
      · rw [List.map_cons, List.idxOf_cons_ne _ ha, ← ih, List.idxOf_cons_ne]
        exact fun heq => ha (Prod.mk.inj heq).2
  rw [leads, List.flatMap_cons, List.idxOf_append_of_mem (List.mem_map_of_mem h), hpair]

/-- The addresses of other names stand behind them. -/
theorem idxOf_leads_of_ne {c : String × String} (h : c.1 ≠ name) :
    (directory.leads (name :: names)).idxOf c =
      (directory.addressesOf name).length + (directory.leads names).idxOf c := by
  rw [leads, List.flatMap_cons, List.idxOf_append_of_notMem, List.length_map, leads]
  intro hmem
  obtain ⟨address, -, rfl⟩ := List.mem_map.1 hmem
  exact h rfl

/-- The addresses of names stand in the order of the names, and those of one name in their own. -/
theorem before_of_idxOf_lt (hnodup : names.Nodup) {c e : String × String}
    (hc : c ∈ directory.leads names) (he : e ∈ directory.leads names)
    (hlt : (directory.leads names).idxOf c < (directory.leads names).idxOf e) :
    names.idxOf c.1 < names.idxOf e.1 ∨ c.1 = e.1 ∧
      (directory.addressesOf c.1).idxOf c.2 < (directory.addressesOf c.1).idxOf e.2 := by
  induction names with
  | nil => cases hc
  | cons name rest ih =>
    have hlater {x : String × String} (hx : x ∈ directory.leads (name :: rest)) (hne : x.1 ≠ name) :
        x ∈ directory.leads rest := by
      obtain ⟨hname, haddress⟩ := mem_leads_iff.1 hx
      exact mem_leads_iff.2 ⟨List.mem_of_ne_of_mem hne hname, haddress⟩
    have haddress := (mem_leads_iff.1 hc).2
    have haddress' := (mem_leads_iff.1 he).2
    by_cases hfirst : c.1 = name
    · by_cases hsecond : e.1 = name
      · obtain ⟨_, address⟩ := c
        obtain ⟨_, address'⟩ := e
        obtain rfl := hfirst
        obtain rfl := hsecond
        rw [idxOf_leads_self haddress, idxOf_leads_self haddress'] at hlt
        exact .inr ⟨rfl, hlt⟩
      · refine .inl ?_
        rw [hfirst, List.idxOf_cons_self, List.idxOf_cons_ne _ (Ne.symm hsecond)]
        exact Nat.succ_pos _
    · rw [idxOf_leads_of_ne hfirst] at hlt
      by_cases hsecond : e.1 = name
      · obtain ⟨_, address'⟩ := e
        obtain rfl := hsecond
        rw [idxOf_leads_self haddress'] at hlt
        exact absurd (List.idxOf_lt_length_of_mem haddress')
          (Nat.not_lt.2 (Nat.le_trans (Nat.le_add_right _ _) (Nat.le_of_lt hlt)))
      · rw [idxOf_leads_of_ne hsecond] at hlt
        have hlt := Nat.lt_of_add_lt_add_left hlt
        obtain hbefore | hsame := ih (List.nodup_cons.1 hnodup).2 (hlater hc hfirst)
          (hlater he hsecond) hlt
        · refine .inl ?_
          rw [List.idxOf_cons_ne _ (Ne.symm hfirst), List.idxOf_cons_ne _ (Ne.symm hsecond)]
          exact Nat.succ_lt_succ hbefore
        · exact .inr hsame

/-! ## The names that are looked up -/

/-- One more name is put at the end, unless it is there already. -/
theorem setAddresses_pooled (name : String) (names : List String) :
    setAddresses (directory.pooled names) name (directory.addressesOf name) =
      if name ∈ names then directory.pooled names else directory.pooled (names ++ [name]) := by
  induction names with
  | nil => rfl
  | cons other rest ih =>
    rw [pooled, List.map_cons, setAddresses]
    by_cases hname : other = name
    · rw [if_pos hname, if_pos (by rw [hname]; exact List.mem_cons_self), hname]
    · have hmem : name ∈ other :: rest ↔ name ∈ rest := by
        rw [List.mem_cons, or_iff_right (Ne.symm hname)]
      rw [if_neg hname, ← pooled, ih, if_congr hmem rfl rfl]
      split <;> rfl

/-- The addresses of a name are looked up. -/
theorem resolve_fst (name : String) (w : World) :
    (resolve (.text name) w directory).1 = directory.addressesOf name := by
  unfold resolve addressesOf
  cases directory.lookup (.text name) <;> rfl

/-- Of the names that have addresses, each is looked up at its first place. -/
theorem resolveAll_pooled (names : List String) {before kept : List String} (w : World)
    (h : KeepsFirsts id (directory.addressesOf · ≠ []) before kept) :
    ∃ kept' w', resolveAll directory (names.map .text) (directory.pooled kept) w =
        (.ok (directory.pooled kept'), w') ∧
      KeepsFirsts id (directory.addressesOf · ≠ []) (before ++ names) kept' := by
  induction names generalizing before kept w with
  | nil => exact ⟨kept, w, rfl, by rwa [List.append_nil]⟩
  | cons name rest ih =>
    have hfound : (resolve (.text name) w directory).1 = directory.addressesOf name :=
      resolve_fst name w
    rcases hresolve : resolve (.text name) w directory with ⟨addresses, w'⟩
    rw [hresolve] at hfound
    obtain rfl : addresses = directory.addressesOf name := hfound
    have hnext : ∃ next, addAddresses (directory.pooled kept) (.text name)
          (directory.addressesOf name) = directory.pooled next ∧
        KeepsFirsts id (directory.addressesOf · ≠ []) (before ++ [name]) next := by
      cases hnone : directory.addressesOf name with
      | nil => exact ⟨kept, rfl, h.skip fun hsome => absurd hnone hsome⟩
      | cons a more =>
        rw [addAddresses, ← hnone, setAddresses_pooled]
        by_cases hmem : name ∈ kept
        · exact ⟨kept, if_pos hmem, h.skip fun _ => ⟨name, hmem, rfl⟩⟩
        · refine ⟨kept ++ [name], if_neg hmem, h.add ?_ ?_⟩
          · rw [hnone]
            exact List.cons_ne_nil _ _
          · intro x hx heq
            obtain rfl : x = name := heq
            exact hmem hx
    obtain ⟨next, hadd, hkeeps⟩ := hnext
    obtain ⟨kept', w'', hrest, hkeeps'⟩ := ih w' hkeeps
    refine ⟨kept', w'', ?_, by rwa [List.append_assoc] at hkeeps'⟩
    have hkey : (Document.text name).isKey = true := rfl
    simp only [List.map_cons, resolveAll, hkey, if_true, hresolve, hadd, hrest]

/-! ## The addresses that are tried -/

/-- The peers found are made for the first accepted place of each address. -/
structure Tried (directory : Directory) (defaults : PeerDefaults)
    (candidates : List (String × String)) (peers : List Peer) : Prop where
  made : ∀ p ∈ peers, directory.peer defaults p.origin p.address = .ok p
  firsts : KeepsFirsts Prod.snd (fun c => ∃ p, directory.peer defaults c.1 c.2 = .ok p) candidates
    (peers.map fun p => (p.origin, p.address))

/-- One more address is tried. -/
theorem Tried.accept {candidates : List (String × String)} {d : Discovery}
    (h : directory.Tried defaults candidates d.peers) (c : String × String) (w : World) :
    directory.Tried defaults (candidates ++ [c])
      (d.accept directory defaults c.1 c.2 w).1.peers := by
  obtain ⟨origin, address⟩ := c
  unfold Discovery.accept
  by_cases hfound : d.peers.any (·.address = address) = true
  · rw [if_pos hfound]
    refine ⟨h.made, h.firsts.skip fun _ => ?_⟩
    obtain ⟨p, hp, heq⟩ := List.any_eq_true.1 hfound
    exact ⟨_, List.mem_map_of_mem hp, of_decide_eq_true heq⟩
  · rw [if_neg hfound]
    cases hpeer : directory.peer defaults origin address with
    | error reason =>
      simp only
      refine ⟨h.made, h.firsts.skip ?_⟩
      rintro ⟨p, hp⟩
      cases hpeer.symm.trans hp
    | ok p =>
      simp only
      obtain ⟨rfl, rfl⟩ := directory.peer_eq hpeer
      refine ⟨?_, ?_⟩
      · intro q hq
        obtain hq | hq := List.mem_append.1 hq
        · exact h.made q hq
        · rw [List.mem_singleton.1 hq]
          exact hpeer
      · rw [List.map_append]
        refine h.firsts.add ⟨p, hpeer⟩ ?_
        intro x hx heq
        obtain ⟨q, hq, rfl⟩ := List.mem_map.1 hx
        exact hfound (List.any_eq_true.2 ⟨q, hq, decide_eq_true heq⟩)

/-- More addresses are tried. -/
theorem Tried.acceptAll (more : List (String × String)) {candidates : List (String × String)}
    {d : Discovery} (h : directory.Tried defaults candidates d.peers) (w : World) :
    directory.Tried defaults (candidates ++ more)
      (Discovery.acceptAll directory defaults more d w).1.peers := by
  induction more generalizing candidates d w with
  | nil => rwa [List.append_nil]
  | cons c rest ih =>
    have := ih (h.accept c w) (d.accept directory defaults c.1 c.2 w).2
    rwa [List.append_assoc] at this

/-! ## The peers found -/

/-- The peers are those that a directory has for names: one for each address that it accepts, with
the first name that leads to it, in the order of the names and of their addresses. -/
structure Finds (directory : Directory) (defaults : PeerDefaults) (names : List String)
    (peers : List Peer) : Prop where
  made : ∀ p ∈ peers, directory.peer defaults p.origin p.address = .ok p
  nodup : (peers.map (·.address)).Nodup
  mem_iff : ∀ address, address ∈ peers.map (·.address) ↔
    ∃ name ∈ names, directory.Accepts defaults name address
  first : ∀ p ∈ peers, p.origin ∈ names ∧ directory.Accepts defaults p.origin p.address ∧
    ∀ name ∈ names, directory.Accepts defaults name p.address →
      names.idxOf p.origin ≤ names.idxOf name
  inOrder : peers.Pairwise fun p q => names.idxOf p.origin < names.idxOf q.origin ∨
    p.origin = q.origin ∧ (directory.addressesOf p.origin).idxOf p.address <
      (directory.addressesOf p.origin).idxOf q.address

/-- What is kept of names and of the addresses that they lead to are the peers found. -/
theorem finds_of_tried {kept : List String} {peers : List Peer}
    (hnames : KeepsFirsts id (directory.addressesOf · ≠ []) names kept)
    (htried : directory.Tried defaults (directory.leads kept) peers) :
    directory.Finds defaults names peers := by
  obtain ⟨hmade, hfirsts⟩ := htried
  have hnodup : kept.Nodup := by simpa using hnames.nodup
  have hpair {p : Peer} (hp : p ∈ peers) :
      (p.origin, p.address) ∈ peers.map fun p => (p.origin, p.address) := List.mem_map_of_mem hp
  -- A name that leads to an address has addresses, so it is among those that are kept.
  have hkept : ∀ name ∈ names, ∀ address, directory.Accepts defaults name address →
      (name, address) ∈ directory.leads kept := by
    intro name hname address haccepts
    have hmem : name ∈ kept.map id :=
      hnames.mem_keys_iff.2 ⟨name, hname, List.ne_nil_of_mem haccepts.1, rfl⟩
    exact mem_leads_iff.2 ⟨by simpa using hmem, haccepts.1⟩
  have horigin {c : String × String} (hc : c ∈ directory.leads kept) : c.1 ∈ names :=
    (hnames.first _ (mem_leads_iff.1 hc).1).1
  have hbefore {c e : String × String} (hc : c ∈ directory.leads kept)
      (he : e ∈ directory.leads kept)
      (hlt : (directory.leads kept).idxOf c < (directory.leads kept).idxOf e) :
      names.idxOf c.1 < names.idxOf e.1 ∨ c.1 = e.1 ∧
        (directory.addressesOf c.1).idxOf c.2 < (directory.addressesOf c.1).idxOf e.2 :=
    (before_of_idxOf_lt hnodup hc he hlt).imp_left
      (hnames.idxOf_lt (mem_leads_iff.1 hc).1 (mem_leads_iff.1 he).1)
  have haddresses : peers.map (·.address) =
      (peers.map fun p => (p.origin, p.address)).map Prod.snd := by
    rw [List.map_map]
    rfl
  refine ⟨hmade, by rw [haddresses]; exact hfirsts.nodup, ?_, ?_, ?_⟩
  · intro address
    rw [haddresses, hfirsts.mem_keys_iff]
    constructor
    · rintro ⟨⟨name, _⟩, hlead, hpeer, rfl⟩
      exact ⟨name, horigin hlead, (mem_leads_iff.1 hlead).2, hpeer⟩
    · rintro ⟨name, hname, haccepts⟩
      exact ⟨(name, address), hkept name hname address haccepts, haccepts.2, rfl⟩
  · intro p hp
    obtain ⟨hlead, hpeer, hfirst⟩ := hfirsts.first _ (hpair hp)
    refine ⟨horigin hlead, ⟨(mem_leads_iff.1 hlead).2, hpeer⟩, ?_⟩
    intro name hname haccepts
    have hother := hkept name hname p.address haccepts
    obtain hlt | heq := Nat.lt_or_eq_of_le (hfirst _ hother haccepts.2 rfl)
    · obtain hlt | ⟨heq, -⟩ := hbefore hlead hother hlt
      · exact Nat.le_of_lt hlt
      · exact Nat.le_of_eq (congrArg names.idxOf heq)
    · exact Nat.le_of_eq (congrArg names.idxOf (Prod.mk.inj ((List.idxOf_inj hlead).1 heq)).1)
  · have hinOrder := hfirsts.inOrder
    rw [List.pairwise_map] at hinOrder
    exact hinOrder.imp_of_mem fun hp hq =>
      hbefore (hfirsts.first _ (hpair hp)).1 (hfirsts.first _ (hpair hq)).1

/-- Peers are found by any names, and they are those of the directory. -/
theorem exists_discover (defaults : PeerDefaults) (names : List String) (w : World) :
    ∃ found w', discover (names.map .text) defaults w directory = (.ok found, w') ∧
      directory.Finds defaults names found.peers := by
  obtain ⟨kept, w', hresolve, hnames⟩ := directory.resolveAll_pooled names w .nil
  have hstart : directory.Tried defaults [] ({} : Discovery).peers := ⟨by simp, .nil⟩
  have htried := hstart.acceptAll (directory.leads kept) w'
  rw [List.nil_append] at hnames htried
  refine ⟨_, (Discovery.acceptAll directory defaults (directory.leads kept) {} w').2, ?_,
    finds_of_tried hnames htried⟩
  have hpool : directory.pooled [] = [] := rfl
  rw [hpool] at hresolve
  -- The pairs that are tried are the leads of the names that were kept.
  simp only [discover, hresolve, pooled, List.flatMap_map, leads]

/-- There are no peers exactly if no address of any name is accepted. -/
theorem Finds.eq_nil_iff {peers : List Peer} (h : directory.Finds defaults names peers) :
    peers = [] ↔ ∀ name ∈ names, ∀ address, ¬ directory.Accepts defaults name address := by
  rw [← List.map_eq_nil_iff (f := (·.address)), List.eq_nil_iff_forall_not_mem]
  constructor
  · intro hnone name hname address haccepts
    exact hnone address ((h.mem_iff address).2 ⟨name, hname, haccepts⟩)
  · intro hnone address hmem
    obtain ⟨name, hname, haccepts⟩ := (h.mem_iff address).1 hmem
    exact hnone name hname address haccepts

/-- The daemon has the peers of the directory, and there has to be one. -/
theorem finds_init {c : Controller} (w : World)
    (hnames : c.config.peers.items = .ok (names.map .text)) :
    directory.Finds ⟨c.config.queryTimeout, c.requests⟩ names (c.init w directory).2.1.peers ∧
      ((c.init w directory).1 = .error (.failure (.noPeers c.config.peers)) ↔
        (c.init w directory).2.1.peers = []) := by
  obtain ⟨found, w', hdiscover, hfinds⟩ := directory.exists_discover
    ⟨c.config.queryTimeout, c.requests⟩ names w
  have hfind : { c with phase := .initializing }.findPeers w directory =
      (.ok found.peers, w') := by
    simp only [Controller.findPeers, hnames, hdiscover, Except.map]
  unfold Controller.init
  simp only [hfind]
  cases hpeers : found.peers with
  | nil =>
    rw [hpeers] at hfinds
    exact ⟨hfinds, iff_of_true rfl rfl⟩
  | cons p rest =>
    rw [hpeers] at hfinds
    exact ⟨hfinds, iff_of_false nofun nofun⟩

/-- By any names, exactly the peers of the directory are found: one for each address that it accepts
for one of the names, with the first such name, in the order of the names and of their addresses.
The daemon starts with these peers, and it has none of them to start with exactly if no address of
any name is accepted. -/
theorem found_exactly (directory : Directory) (names : List String) :
    (∀ defaults w, ∃ found w', discover (names.map .text) defaults w directory = (.ok found, w') ∧
      directory.Finds defaults names found.peers) ∧
    ∀ (c : Controller) (w : World), c.config.peers.items = .ok (names.map .text) →
      directory.Finds ⟨c.config.queryTimeout, c.requests⟩ names (c.init w directory).2.1.peers ∧
      ((c.init w directory).1 = .error (.failure (.noPeers c.config.peers)) ↔
        ∀ name ∈ names, ∀ address,
          ¬ directory.Accepts ⟨c.config.queryTimeout, c.requests⟩ name address) := by
  refine ⟨fun defaults w => directory.exists_discover defaults names w, ?_⟩
  intro c w hnames
  obtain ⟨hfinds, hnone⟩ := directory.finds_init w hnames
  exact ⟨hfinds, hnone.trans hfinds.eq_nil_iff⟩

/-- A directory of two names that share an address, which is refused under one of them. -/
def sharedAddress : Directory where
  lookup
    | .text "a" => .addresses ["192.0.2.1", "192.0.2.2", "192.0.2.1"]
    | .text "b" => .addresses ["192.0.2.2", "192.0.2.3"]
    | _ => .failed .unknownName
  peer defaults origin address :=
    if origin = "b" ∧ address = "192.0.2.2" then .error "refused"
    else .ok { origin, address, timeout := defaults.timeout, maxSamples := defaults.maxSamples }
  peer_eq h := by
    split at h
    · cases h
    · cases h
      exact ⟨rfl, rfl⟩

/-- Names of which one stands twice and one leads nowhere. -/
def repeatedNames : List String := ["b", "c", "a", "b"]

/-- The new controller of a configuration with these names. -/
def repeatedNamesMade : Controller :=
  (Controller.make? { peers := .list (repeatedNames.map .text) } false).toOption.get
    (by decide +kernel)

/-- The shared address is found by the name under which it is accepted, though that is not the
first one that leads to it. -/
theorem found_of_sharedAddress :
    sharedAddress.Finds ⟨repeatedNamesMade.config.queryTimeout, repeatedNamesMade.requests⟩
        repeatedNames (repeatedNamesMade.init {} sharedAddress).2.1.peers ∧
      (repeatedNamesMade.init {} sharedAddress).2.1.peers.map (fun p => (p.origin, p.address)) =
        [("b", "192.0.2.3"), ("a", "192.0.2.1"), ("a", "192.0.2.2")] := by
  have hnames : repeatedNamesMade.config.peers.items = .ok (repeatedNames.map .text) :=
    eq_ok_of_toOption (by decide +kernel)
  exact ⟨((found_exactly sharedAddress repeatedNames).2 repeatedNamesMade {} hnames).1,
    by decide +kernel⟩

end Directory

end Concord
