import Concord.Proofs.PeerRound
import Mathlib.Data.List.Induction

/-!
# The reason that a failed round leaves

Every outcome of a request but an accepted sample puts its text into the place of the last failure
(`Peer.reason?`), so after the requests the text of the last such outcome stands there
(`Peer.lastError_foldl_hear`). A judgement against the samples puts its own text there instead,
which is never empty, and a judgement for them leaves what is there (`Peer.lastError_afterRound`).

An error of the operating system and a fault may have no text, and then their empty text is put
there. The main statement `lastError_of_round` says when a round leaves no failure, and when it
leaves one without a text.
-/

namespace Concord

namespace Outcome

/-- The outcome is a failure whose text is empty. -/
def isTextless : Outcome → Bool
  | system error => error.message = ""
  | fault f => f.message = ""
  | _ => false

end Outcome

/-- A rejection has a text. -/
theorem Rejection.message_ne_empty (r : Rejection) : r.message ≠ "" := by
  cases r <;> simp [message]

/-- A judgement against samples has a text. -/
theorem Unusable.message_ne_empty (u : Unusable) : u.message ≠ "" := by
  unfold message
  split
  · decide
  · simp

/-- The fault of a number that is not whole has a text. -/
theorem Fault.message_notWhole_ne_empty (d : Document) : (notWhole d).message ≠ "" := by
  simp [notWhole, message, text?]

/-- A fault in judging samples has a text. -/
theorem message_ne_empty_of_judge {offsets : List Binary64} {limit : Document} {fault : Fault}
    (h : judge offsets limit = .error fault) : fault.message ≠ "" := by
  unfold judge at h
  split at h
  · cases h
  · cases h
  · split at h
    · cases h
      decide
    · rename_i deviation _
      unfold Document.limitFor at h
      cases hlimit : limit.number? with
      | none =>
        rw [hlimit] at h
        cases h
        simp [Fault.incomparable, Fault.message, Fault.text?]
      | some n =>
        simp only [hlimit, Except.bind, judgeDeviation] at h
        split at h
        · split at h
          · cases h
            decide
          · cases h
        · cases h

namespace Peer

/-! ## The text of an outcome -/

/-- The text that an outcome leaves as the last failure, if it is no accepted sample. -/
def reason? (p : Peer) : Outcome → Option String
  | .sample s => s.rejection?.map Rejection.message
  | .system error => some error.message
  | .silence => some ("No response received from " ++ p.address ++ ".")
  | .protocol text => some (match text.getD "" with
    | "" => Fault.packet.className
    | text => text)
  | .fault f => some f.message

/-- The text of the last outcome that is no accepted sample. -/
def lastReason (p : Peer) (outcomes : List Outcome) : Option String :=
  outcomes.reverse.findSome? p.reason?

variable {p : Peer} {o : Outcome} {outcomes : List Outcome}

/-- Only an accepted sample leaves no text. -/
theorem reason?_eq_none : p.reason? o = none ↔ o.kept?.isSome = true := by
  cases o with
  | sample s => cases hr : s.rejection? <;> simp [reason?, Outcome.kept?, hr]
  | silence | protocol | system | fault => simp [reason?, Outcome.kept?]

/-- Only an error of the operating system and a fault leave an empty text. -/
theorem reason?_eq_empty : p.reason? o = some "" ↔ o.isTextless = true := by
  cases o with
  | sample s =>
    simp only [reason?, Outcome.isTextless, Option.map_eq_some_iff, Bool.false_eq_true, iff_false]
    rintro ⟨r, -, hempty⟩
    exact r.message_ne_empty hempty
  | silence => simp [reason?, Outcome.isTextless]
  | protocol text =>
    simp only [reason?, Outcome.isTextless, Option.some.injEq, Bool.false_eq_true, iff_false]
    split
    · decide
    · rename_i hset
      exact hset
  | system error => simp [reason?, Outcome.isTextless]
  | fault f => simp [reason?, Outcome.isTextless]

/-- There is no last text exactly if all outcomes are accepted samples. -/
theorem lastReason_eq_none :
    p.lastReason outcomes = none ↔ ∀ o ∈ outcomes, o.kept?.isSome = true := by
  simp only [lastReason, List.findSome?_eq_none_iff, List.mem_reverse, reason?_eq_none]

/-- The last text is empty exactly if a failure without a text is followed by accepted samples
only. -/
theorem lastReason_eq_empty : p.lastReason outcomes = some "" ↔
    ∃ before o after, outcomes = before ++ o :: after ∧ o.isTextless = true ∧
      ∀ later ∈ after, later.kept?.isSome = true := by
  simp only [lastReason, List.findSome?_eq_some_iff, reason?_eq_none, reason?_eq_empty]
  constructor
  · rintro ⟨after, o, before, hreverse, htextless, hafter⟩
    refine ⟨before.reverse, o, after.reverse, ?_, htextless, fun later hlater => ?_⟩
    · rw [← List.reverse_reverse outcomes, hreverse]
      simp
    · exact hafter later (List.mem_reverse.1 hlater)
  · rintro ⟨before, o, after, rfl, htextless, hafter⟩
    refine ⟨after.reverse, o, before.reverse, by simp, htextless, fun later hlater => ?_⟩
    exact hafter later (List.mem_reverse.1 hlater)

/-- One more outcome counts before all others. -/
theorem lastReason_append_singleton :
    p.lastReason (outcomes ++ [o]) = (p.reason? o).or (p.lastReason outcomes) := by
  rw [lastReason, List.reverse_append, List.reverse_singleton, List.singleton_append,
    List.findSome?_cons]
  cases p.reason? o <;> rfl

/-! ## The last failure of a round -/

/-- After the requests of a round without a fault the last text is the last failure. -/
theorem lastError_foldl_hear (setup : Bool) (h : ∀ o ∈ outcomes, o.fault? = none) :
    (outcomes.foldl (p.hear setup) {}).lastError = p.lastReason outcomes := by
  induction outcomes using List.reverseRecOn with
  | nil => rfl
  | append_singleton outcomes o ih =>
    obtain ⟨hbefore, ho⟩ := List.forall_mem_append.1 h
    rw [List.foldl_append, lastReason_append_singleton, ← ih hbefore]
    -- What is heard puts its text in the place of the one before.
    cases o with
    | sample s => cases hr : s.rejection? <;> simp [hear, reason?, hr]
    | silence | protocol | system => rfl
    | fault f => cases ho (.fault f) List.mem_cons_self

/-- A fault is the last outcome of a round, and leaves its text. -/
theorem lastError_of_fault {maxStd : Document} {setup : Bool} {w : World}
    (h : ∃ o ∈ p.outcomes setup w, o.fault? ≠ none) :
    (p.afterRound maxStd setup (p.outcomes setup w)).lastError =
      p.lastReason (p.outcomes setup w) := by
  obtain ⟨o, ho, hfault⟩ := h
  cases o with
  | sample | silence | protocol | system => exact absurd rfl hfault
  | fault f =>
    obtain ⟨before, hends, -⟩ := heard_eq_of_isLast ho (by simp [Outcome.isLast, Outcome.fault?])
    have houtcomes : p.outcomes setup w = before ++ [.fault f] := hends
    have hlast : p.lastReason (p.outcomes setup w) = some f.message := by
      rw [houtcomes, lastReason_append_singleton]
      rfl
    have hgathered : ((p.outcomes setup w).foldl (p.hear setup) {}).fault = some f := by
      rw [houtcomes, List.foldl_append]
      rfl
    rw [hlast]
    unfold afterRound
    split
    · -- Without a whole number of requests there are no outcomes.
      rename_i x hcount
      have hnone : p.outcomes setup w = [] := by
        simp [outcomes, requestCount, hcount, Script.upcoming, heard]
      rw [hnone] at ho
      cases ho
    · simp only [hgathered]
      rfl

/-- In a round with a fault, an outcome that is followed by accepted samples only is the fault. -/
theorem fault?_of_split {setup : Bool} {w : World} {before after : List Outcome}
    (heq : p.outcomes setup w = before ++ o :: after)
    (hafter : ∀ later ∈ after, later.kept?.isSome = true)
    (h : ∃ e ∈ p.outcomes setup w, e.fault? ≠ none) : o.fault?.isSome = true := by
  obtain ⟨e, he, hfault⟩ := h
  have hlast : e.isLast setup = true := by
    simp [Outcome.isLast, Option.isSome_iff_ne_none.2 hfault]
  obtain ⟨front, hends, hfront⟩ := heard_eq_of_isLast he hlast
  have houtcomes : before ++ o :: after = front ++ [e] := heq.symm.trans hends
  rw [heq] at he
  rcases List.mem_append.1 he with hbefore | hbehind
  · -- The fault ends the round, so it does not stand in front of another outcome.
    have hdrop := congrArg List.dropLast houtcomes
    rw [List.dropLast_append_cons, List.dropLast_concat] at hdrop
    rw [hfront e (hdrop ▸ List.mem_append_left _ hbefore)] at hlast
    cases hlast
  · rcases List.mem_cons.1 hbehind with rfl | hmem
    · exact Option.isSome_iff_ne_none.2 hfault
    · obtain ⟨s, hkept⟩ := Option.isSome_iff_exists.1 (hafter e hmem)
      obtain ⟨rfl, -⟩ := Outcome.kept?_eq_some.1 hkept
      exact absurd rfl hfault

/-- The last failure of a peer after its round is the last text of its outcomes, if it is healthy or
a request came to a fault; otherwise it is a text of its own that is not empty. -/
theorem lastError_afterRound (p : Peer) (maxStd : Document) (setup : Bool) (w : World) :
    (((p.afterRound maxStd setup (p.outcomes setup w)).healthy = true ∨
        ∃ o ∈ p.outcomes setup w, o.fault? ≠ none) ∧
      (p.afterRound maxStd setup (p.outcomes setup w)).lastError =
        p.lastReason (p.outcomes setup w)) ∨
    ((p.afterRound maxStd setup (p.outcomes setup w)).healthy = false ∧
      (∀ o ∈ p.outcomes setup w, o.fault? = none) ∧
      ∃ text, (p.afterRound maxStd setup (p.outcomes setup w)).lastError = some text ∧
        text ≠ "") := by
  by_cases hfault : ∃ o ∈ p.outcomes setup w, o.fault? ≠ none
  · exact .inl ⟨.inr hfault, lastError_of_fault hfault⟩
  have hnone : ∀ o ∈ p.outcomes setup w, o.fault? = none := by simpa using hfault
  have hgathered := lastError_foldl_hear (p := p) setup hnone
  have hfaultless := (p.fault_foldl_hear_eq_none setup (p.outcomes setup w) {}).2 ⟨rfl, hnone⟩
  unfold afterRound
  split
  · exact .inr ⟨rfl, hnone, _, rfl, Fault.message_notWhole_ne_empty _⟩
  · simp only [hfaultless, judged]
    split
    · rename_i fault hjudge
      exact .inr ⟨rfl, hnone, _, rfl, message_ne_empty_of_judge hjudge⟩
    · exact .inl ⟨.inl rfl, hgathered⟩
    · rename_i unusable _
      exact .inr ⟨rfl, hnone, _, rfl, unusable.message_ne_empty⟩

end Peer

/-- After a round an enabled peer has no last failure if and only if all of its requests came back
with accepted samples and it is healthy. Its last failure has an empty text if and only if a failure
without a text was followed by accepted samples only, and either the peer is healthy nevertheless or
the failure is a fault; every other last failure has a text. -/
theorem lastError_of_round {peers : List Peer} {i : Nat} {p : Peer} (maxStd : Document)
    (setup : Bool) (w : World) (hp : peers[i]? = some p) (he : p.enabled = true) :
    ∃ outcomes q, (roundOutcomes maxStd setup peers w)[i]? = some outcomes ∧
      (pollPeers peers maxStd setup w).1[i]? = some q ∧
      (q.lastError = none ↔ (∀ o ∈ outcomes, o.kept?.isSome = true) ∧ q.healthy = true) ∧
      (q.lastError = some "" ↔ ∃ before o after, outcomes = before ++ o :: after ∧
        o.isTextless = true ∧ (∀ later ∈ after, later.kept?.isSome = true) ∧
        (q.healthy = true ∨ o.fault?.isSome = true)) := by
  obtain ⟨w', houtcomes, hq⟩ := pollPeers_at maxStd setup w hp
  rw [if_pos he] at houtcomes
  rw [Peer.polled, if_pos he] at hq
  refine ⟨_, _, houtcomes, hq, ?_⟩
  obtain ⟨hwhy, hlast⟩ | ⟨hill, hnone, text, hlast, htext⟩ := p.lastError_afterRound maxStd setup w'
  · rw [hlast, Peer.lastReason_eq_none, Peer.lastReason_eq_empty]
    constructor
    · refine ⟨fun hkept => ⟨hkept, ?_⟩, And.left⟩
      -- A fault is no accepted sample.
      refine hwhy.resolve_right ?_
      rintro ⟨o, ho, hfault⟩
      cases o with
      | fault f => cases hkept (.fault f) ho
      | sample | silence | protocol | system => exact hfault rfl
    · constructor
      · rintro ⟨before, o, after, heq, htextless, hafter⟩
        exact ⟨before, o, after, heq, htextless, hafter,
          hwhy.imp_right (Peer.fault?_of_split heq hafter)⟩
      · rintro ⟨before, o, after, heq, htextless, hafter, -⟩
        exact ⟨before, o, after, heq, htextless, hafter⟩
  · rw [hlast, hill]
    constructor
    · constructor
      · intro hnothing
        cases hnothing
      · rintro ⟨-, hhealthy⟩
        cases hhealthy
    · constructor
      · intro hempty
        exact absurd (Option.some.inj hempty) htext
      · rintro ⟨before, o, after, heq, -, -, hhealthy | hfault⟩
        · cases hhealthy
        · have ho := hnone o (heq ▸ List.mem_append_right _ List.mem_cons_self)
          rw [ho] at hfault
          cases hfault

/-- A peer that is asked twice in a round. -/
def askedTwice : Peer := { origin := "a", address := "192.0.2.1", maxSamples := .int 2 }

/-- The sample that the peer answers with. -/
def answeredSample : Sample := ⟨.ofDecimal false 1 (-3), 2, 0, .zero, .zero, .zero, 0, .zero⟩

/-- A world in which the first request comes to an error without a number and a text, and the second
one to a sample. -/
def errorThenSample : World :=
  { network := [("192.0.2.1", { items := [.system {}, .sample answeredSample] })] }

/-- The peer after a round in this world. -/
def askedTwiceAfter : List Peer :=
  (pollPeers [askedTwice] (.real (.ofDecimal false 5 (-2))) false errorThenSample).1

/-- The error leaves its empty text, and the peer is healthy. -/
theorem emptyText_of_errorThenSample :
    ∃ q, askedTwiceAfter[0]? = some q ∧ q.lastError = some "" := by
  have hp : [askedTwice][0]? = some askedTwice := rfl
  obtain ⟨outcomes, q, houtcomes, hq, -, hempty⟩ :=
    lastError_of_round (.real (.ofDecimal false 5 (-2))) false errorThenSample hp rfl
  have hown : (roundOutcomes (.real (.ofDecimal false 5 (-2))) false [askedTwice]
      errorThenSample)[0]? = some [.system {}, .sample answeredSample] := by decide +kernel
  obtain rfl := Option.some.inj (hown.symm.trans houtcomes)
  have hhealthy : askedTwiceAfter[0]?.map (·.healthy) = some true := by decide +kernel
  have hq : askedTwiceAfter[0]? = some q := hq
  rw [hq] at hhealthy
  refine ⟨q, hq, hempty.2 ⟨[], .system {}, [.sample answeredSample], rfl, by decide, ?_, ?_⟩⟩
  · exact List.forall_mem_singleton.2 (by decide)
  · exact .inl (Option.some.inj hhealthy)

/-- One of the requests failed, and the last failure has no text. -/
theorem noText_of_errorThenSample : ∃ q, askedTwiceAfter[0]? = some q ∧ q.lastError ≠ none ∧
    ¬ ∃ text, q.lastError = some text ∧ text ≠ "" := by
  have hfailure : askedTwiceAfter[0]?.map (·.lastError) = some (some "") := by decide +kernel
  obtain ⟨q, hq, hlast⟩ := Option.map_eq_some_iff.1 hfailure
  refine ⟨q, hq, ?_, ?_⟩
  · rw [hlast]
    exact nofun
  · rintro ⟨text, htext, hset⟩
    rw [hlast] at htext
    exact hset (Option.some.inj htext).symm

end Concord
