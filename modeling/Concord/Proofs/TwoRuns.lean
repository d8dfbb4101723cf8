import Concord.Proofs.SameRound

/-!
# Two runs side by side

Two runs go side by side (`Controller.SideBySide`) when in each round every address gives both the
same answers, in any order, and all their offsets are finite. Controllers that are alike stay alike
in them, and each of their rounds sorts finite offsets only and ends alike: this is
`agree_of_sideBySide`. A round without a reference keeps what an earlier one published, and that may
depend on the order of the peers if it chose between equal offsets.
-/

namespace Concord.Controller

/-! ## Whole runs -/

/-- Two runs go on side by side. Each of them does what it does between the rounds. In a round the
peers of both get the same answers, and the system lets both clocks be set or neither. -/
inductive SideBySide (c₀ d₀ : Controller) : Controller → Controller → Prop where
  | start : SideBySide c₀ d₀ c₀ d₀
  | passLeft {c c' d : Controller} : SideBySide c₀ d₀ c d → Pass c c' → SideBySide c₀ d₀ c' d
  | passRight {c d d' : Controller} : SideBySide c₀ d₀ c d → Pass d d' → SideBySide c₀ d₀ c d'
  | cycle {c d : Controller} {w w' : World} : SideBySide c₀ d₀ c d → c.SameAnswers w w' →
      w.clockFault.isNone = w'.clockFault.isNone →
      SideBySide c₀ d₀ (c.cycle w).2.1 (d.cycle w').2.1

/-- What two runs side by side keep up: both can come about and are alike, the bounds of the trust
levels stay whole numbers, and the samples that are not replaced any more have finite offsets. -/
structure Together (low high : Int) (c d : Controller) : Prop where
  left : Reachable c
  right : Reachable d
  whole : c.pace.Whole low high
  rest : c.FiniteAtRest
  alike : Alike c d

namespace Together

variable {low high : Int} {c d : Controller}

/-- What happens between two rounds keeps runs together. -/
theorem pass_left {c' : Controller} (h : Together low high c d) (hpass : Pass c c') :
    Together low high c' d := by
  have hreachable := h.left.pass hpass
  obtain ⟨_, _, _, _, rfl⟩ := hpass.frame
  obtain ⟨hmax, hforce, hquorum, hpace, hpanic, hdry, hpeers⟩ := h.alike
  exact ⟨hreachable, h.right, h.whole, h.rest,
    ⟨hmax, hforce, hquorum, hpace, hpanic, hdry, hpeers⟩⟩

/-- What happens between two rounds keeps runs together. -/
theorem pass_right {d' : Controller} (h : Together low high c d) (hpass : Pass d d') :
    Together low high c d' := by
  have hreachable := h.right.pass hpass
  obtain ⟨_, _, _, _, rfl⟩ := hpass.frame
  obtain ⟨hmax, hforce, hquorum, hpace, hpanic, hdry, hpeers⟩ := h.alike
  exact ⟨h.left, hreachable, h.whole, h.rest,
    ⟨hmax, hforce, hquorum, hpace, hpanic, hdry, hpeers⟩⟩

/-- A round with the same answers keeps runs together. -/
theorem cycle (h : Together low high c d) {w w' : World} (hsame : c.SameAnswers w w')
    (hfault : w.clockFault.isNone = w'.clockFault.isNone) :
    Together low high (c.cycle w).2.1 (d.cycle w').2.1 := by
  have hround := h.alike.sameRound h.left h.right h.whole hsame hfault
  have hwhole : (c.cycle w).2.1.pace.Whole low high := by
    obtain ⟨_, _, _, _, _, _, _, _, _, _, hframe⟩ := c.cycle_frame w
    rw [hframe]
    exact h.whole
  exact ⟨h.left.cycle w, h.right.cycle w', hwhole, h.rest.cycle h.left hsame, hround.alike⟩

end Together

/-- Controllers that are alike stay alike in runs side by side, between whole bounds of the trust
levels, and each round of the two has everything in common. The offsets among which it chooses are
finite, if those are that no round replaces. -/
theorem agree_of_sideBySide {c₀ d₀ c d : Controller} {low high : Int} (hc : Reachable c₀)
    (hd : Reachable d₀) (hwhole : c₀.pace.Whole low high) (hrest : c₀.FiniteAtRest)
    (halike : Alike c₀ d₀) (h : SideBySide c₀ d₀ c d) :
    Alike c d ∧ ∀ w w', c.SameAnswers w w' → w.clockFault.isNone = w'.clockFault.isNone →
      (∀ r ∈ Quorum.eligible (c.polledPeers false w), r.offset.isFinite = true) ∧
        SameRound c d w w' := by
  have htogether : Together low high c d := by
    induction h with
    | start => exact ⟨hc, hd, hwhole, hrest, halike⟩
    | passLeft _ hpass ih => exact ih.pass_left hpass
    | passRight _ hpass ih => exact ih.pass_right hpass
    | cycle _ hsame hfault ih => exact ih.cycle hsame hfault
  refine ⟨htogether.alike, ?_⟩
  intro w w' hsame hfault
  exact ⟨finite_eligible htogether.left htogether.rest hsame,
    htogether.alike.sameRound htogether.left htogether.right htogether.whole hsame hfault⟩

/-! ## Two peers in both orders -/

/-- An answer with the given offset that took the given time. -/
def answerOf (offset delay : Binary64) : Outcome :=
  .sample ⟨offset, 2, 0, delay, .zero, .zero, 0, .zero⟩

/-- A world of two servers with the given answers. -/
def twoServers (first second : Script) : World :=
  { names := [("a", .addresses ["192.0.2.1"]), ("b", .addresses ["192.0.2.2"])]
    network := [("192.0.2.1", first), ("192.0.2.2", second)] }

/-- A world in which only the first of the two servers answers. -/
def firstServer : World := twoServers { default := answerOf (.ofDecimal false 1 (-3)) .zero } {}

/-- The controller of the servers with the given names and the given upper bound of the trust levels
after it found them and corrected its clock by the first one. -/
def synced? (names : List String) (maxPoll : Document) : Option Controller :=
  (start? { peers := .list (names.map .text), maxSamples := .int 2, goodFilter := .int 1, maxPoll }
    false firstServer).map fun c => (c.firstSync firstServer).2.1

/-- What `synced?` gives can come about. -/
theorem reachable_synced? {names : List String} {maxPoll : Document}
    (h : (synced? names maxPoll).isSome = true) : Reachable ((synced? names maxPoll).get h) := by
  obtain ⟨started, hstarted, heq⟩ := Option.map_eq_some_iff.1 (Option.some_get h).symm
  rw [← heq]
  exact (started_of_start? hstarted).reachable.firstSync firstServer

/-- The controller with the servers in order. -/
def forward : Controller := (synced? ["a", "b"] (.int 7)).get (by decide +kernel)

/-- The controller with the servers in reverse order. -/
def backward : Controller := (synced? ["b", "a"] (.int 7)).get (by decide +kernel)

/-- The order of the servers is the only difference. -/
theorem alike_forward_backward : Alike forward backward := by
  refine ⟨?_, ?_, ?_, ?_, ?_, ?_, forward.peers.reverse, (List.reverse_perm _).symm, ?_⟩ <;>
    decide +kernel

/-- Two rounds of two servers that each give two answers agree with the rounds in which everything
is in reverse. -/
theorem agree_of_reversedAnswers :
    let answers (k : Nat) := [answerOf (.ofDecimal false k (-3)) .zero,
      answerOf (.ofDecimal false (k + 1) (-3)) .zero]
    let w := twoServers { items := answers 0 } { items := answers 2 }
    let w' := twoServers { items := (answers 0).reverse } { items := (answers 2).reverse }
    Alike (forward.cycle w).2.1 (backward.cycle w').2.1 ∧
      ((forward.cycle w).2.1.cycle w).2.1.figures =
        ((backward.cycle w').2.1.cycle w').2.1.figures := by
  intro answers w w'
  have hforward : Reachable forward := reachable_synced? (by decide +kernel)
  have hbackward : Reachable backward := reachable_synced? (by decide +kernel)
  have hwhole : forward.pace.Whole 1 7 := ⟨by decide +kernel, by decide +kernel⟩
  have hsame : forward.SameAnswers w w' := by decide +kernel
  have hrest : forward.FiniteAtRest := by decide +kernel
  obtain ⟨halike, hround⟩ := agree_of_sideBySide hforward hbackward hwhole hrest
    alike_forward_backward (.cycle .start hsame (by decide +kernel))
  obtain ⟨-, hsecond⟩ := hround w w' (by decide +kernel) (by decide +kernel)
  exact ⟨halike, hsecond.figures (by decide +kernel) (.inr (by decide +kernel))⟩

/-- A world in which both servers answer with the same offset, the second one later. -/
def tied : World :=
  twoServers { default := answerOf (.ofDecimal false 1 (-3)) (.ofDecimal false 25 (-2)) }
    { default := answerOf (.ofDecimal false 1 (-3)) (.ofDecimal false 5 (-1)) }

/-- A world in which nobody answers. -/
def silent : World := twoServers {} {}

/-- A world in which only the first of the two servers answers, and the clock cannot be set. -/
def clockLocked : World := { firstServer with clockFault := some (.system ⟨some 1, none⟩) }

/-- The controller with the servers in order and an upper bound of one and a half. -/
def forwardFractional : Controller :=
  (synced? ["a", "b"] (.real (.ofDecimal false 15 (-1)))).get (by decide +kernel)

/-- The controller with the servers in reverse order and an upper bound of one and a half. -/
def backwardFractional : Controller :=
  (synced? ["b", "a"] (.real (.ofDecimal false 15 (-1)))).get (by decide +kernel)

/-- The trust in the peers at their addresses. -/
def trustAt (c : Controller) : List (String × Int) := c.peers.map fun p => (p.address, p.trust)

/-- After a tie, a silent round leaves different delays, although it has no samples of one offset.
With an upper bound that is no whole number, the tie leaves different trust. So does a round in
which only one of the clocks can be set. -/
theorem apart_in_two_runs :
    (Reachable forward ∧ Reachable backward ∧ Alike forward backward ∧ forward.FiniteAtRest ∧
      forward.SameAnswers tied tied ∧
      (forward.cycle tied).2.1.SameAnswers silent silent ∧
      Quorum.Distinct ((forward.cycle tied).2.1.polledPeers false silent) ∧
      ((forward.cycle tied).2.1.cycle silent).2.1.delay ≠
        ((backward.cycle tied).2.1.cycle silent).2.1.delay) ∧
    (Reachable forwardFractional ∧ Reachable backwardFractional ∧
      Alike forwardFractional backwardFractional ∧ forwardFractional.FiniteAtRest ∧
      forwardFractional.SameAnswers firstServer firstServer ∧
      (forwardFractional.cycle firstServer).2.1.SameAnswers tied tied ∧
      ((forwardFractional.cycle firstServer).2.1.cycle tied).2.1.trustAt =
        [("192.0.2.1", 2), ("192.0.2.2", 2)] ∧
      ((backwardFractional.cycle firstServer).2.1.cycle tied).2.1.trustAt =
        [("192.0.2.2", 1), ("192.0.2.1", 2)]) ∧
    (forward.SameAnswers firstServer clockLocked ∧
      (forward.cycle firstServer).2.1.trustAt = [("192.0.2.1", 2), ("192.0.2.2", 1)] ∧
      (backward.cycle clockLocked).2.1.trustAt = [("192.0.2.2", 1), ("192.0.2.1", 1)]) := by
  have hforward : Reachable forward := reachable_synced? (by decide +kernel)
  have hbackward : Reachable backward := reachable_synced? (by decide +kernel)
  have hforward' : Reachable forwardFractional := reachable_synced? (by decide +kernel)
  have hbackward' : Reachable backwardFractional := reachable_synced? (by decide +kernel)
  have halike' : Alike forwardFractional backwardFractional := by
    refine ⟨?_, ?_, ?_, ?_, ?_, ?_, forwardFractional.peers.reverse,
      (List.reverse_perm _).symm, ?_⟩ <;> decide +kernel
  refine ⟨⟨hforward, hbackward, alike_forward_backward, ?_, ?_, ?_, ?_, ?_⟩,
    ⟨hforward', hbackward', halike', ?_, ?_, ?_, ?_, ?_⟩, ?_, ?_, ?_⟩ <;> decide +kernel

end Concord.Controller
