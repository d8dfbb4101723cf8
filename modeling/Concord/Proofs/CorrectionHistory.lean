import Concord.Proofs.ClockStep

/-!
# The history of corrections

A clock counts its corrections and keeps the last one. Of every attempt that comes to nothing both
are left as they were, whether it was refused or the system did not let the clock be set. The leap
second that is announced is kept before the clock is set, so it is that of the last attempt that was
not refused: one that then fails leaves it behind.

The main statement is `known_after`, what a clock knows after any sequence of attempts.
-/

namespace Concord

/-- A correction that is asked for, and the world in which it is. -/
structure Attempt where
  offset : Binary64
  /-- The leap second that goes with it. -/
  leap : Int
  /-- Whether a large correction is done. -/
  force : Bool
  /-- Whether the clock is not touched. -/
  dryRun : Bool
  world : World

namespace Clock

/-- The failure of an attempt, if it fails, and the clock that it leaves. -/
def attempt (c : Clock) (a : Attempt) : Option Failure × Clock :=
  let ended := { c with dryRun := a.dryRun }.apply a.offset a.leap a.force a.world
  (ended.1, ended.2.1)

/-- The clock after a number of attempts. -/
def after (c : Clock) (attempts : List Attempt) : Clock :=
  attempts.foldl (fun c a => (c.attempt a).2) c

/-- Whether an attempt succeeds. -/
def does (c : Clock) (a : Attempt) : Bool := (c.attempt a).1.isNone

/-- Whether an attempt is not refused. The system may still not let the clock be set. -/
def admits (c : Clock) (a : Attempt) : Bool := (c.refusal? a.offset a.leap a.force).isNone

/-- The attempts of which something holds when they are made, in their order. -/
def those (p : Clock → Attempt → Bool) (c : Clock) : List Attempt → List Attempt
  | [] => []
  | a :: attempts =>
    if p c a then a :: those p (c.attempt a).2 attempts else those p (c.attempt a).2 attempts

/-! ## One attempt -/

/-- An attempt succeeds, is refused, or fails with the leap second kept. -/
theorem attempt_end (c : Clock) (a : Attempt) :
    (c.does a = true ∧ c.admits a = true ∧
        (c.attempt a).2 = { c with dryRun := a.dryRun }.corrected a.offset a.leap) ∨
      (c.does a = false ∧ c.admits a = false ∧ (c.attempt a).2 = { c with dryRun := a.dryRun }) ∨
      (c.does a = false ∧ c.admits a = true ∧
        (c.attempt a).2 = { c with dryRun := a.dryRun, pendingLeap := a.leap }) := by
  have hend := { c with dryRun := a.dryRun }.apply_correction a.offset a.leap a.force a.world
  -- Whether the clock is touched has no part in a refusal.
  have hrefusal : { c with dryRun := a.dryRun }.refusal? a.offset a.leap a.force =
      c.refusal? a.offset a.leap a.force := rfl
  unfold does admits attempt
  rw [← hrefusal]
  generalize { c with dryRun := a.dryRun }.apply a.offset a.leap a.force a.world = ended at hend ⊢
  cases hend with
  | refused hrefused => exact .inr (.inl ⟨rfl, by rw [hrefused]; rfl, rfl⟩)
  | failed hnone => exact .inr (.inr ⟨rfl, by rw [hnone]; rfl, rfl⟩)
  | reported hnone | done hnone => exact .inl ⟨rfl, by rw [hnone]; rfl, rfl⟩

/-- An attempt that succeeds is counted. -/
theorem corrections_attempt (c : Clock) (a : Attempt) :
    (c.attempt a).2.corrections = if c.does a then c.corrections + 1 else c.corrections := by
  obtain ⟨hdoes, -, hleft⟩ | ⟨hdoes, -, hleft⟩ | ⟨hdoes, -, hleft⟩ := c.attempt_end a <;>
    rw [hdoes, hleft] <;> rfl

/-- The offset of an attempt that succeeds is kept. -/
theorem lastOffset_attempt (c : Clock) (a : Attempt) :
    (c.attempt a).2.lastOffset = if c.does a then some a.offset else c.lastOffset := by
  obtain ⟨hdoes, -, hleft⟩ | ⟨hdoes, -, hleft⟩ | ⟨hdoes, -, hleft⟩ := c.attempt_end a <;>
    rw [hdoes, hleft] <;> rfl

/-- The leap second of an attempt that is not refused is kept. -/
theorem pendingLeap_attempt (c : Clock) (a : Attempt) :
    (c.attempt a).2.pendingLeap = if c.admits a then a.leap else c.pendingLeap := by
  obtain ⟨-, hadmits, hleft⟩ | ⟨-, hadmits, hleft⟩ | ⟨-, hadmits, hleft⟩ := c.attempt_end a <;>
    rw [hadmits, hleft] <;> rfl

/-! ## Many attempts -/

/-- What is replaced by the attempts of which something holds is what the last of them put there. -/
theorem after_eq_last {α : Type} {p : Clock → Attempt → Bool} {known : Clock → α}
    {put : Attempt → α}
    (h : ∀ c a, known (c.attempt a).2 = if p c a then put a else known c) (c : Clock)
    (attempts : List Attempt) :
    known (c.after attempts) = ((those p c attempts).getLast?.map put).getD (known c) := by
  induction attempts generalizing c with
  | nil => rfl
  | cons a attempts ih =>
    have hrest := ih (c.attempt a).2
    rw [h] at hrest
    show known ((c.attempt a).2.after attempts) = _
    rw [hrest, those]
    cases p c a with
    | false => simp
    | true =>
      rw [if_pos rfl, if_pos rfl, List.getLast?_cons]
      cases (those p (c.attempt a).2 attempts).getLast? <;> rfl

/-- The attempts that succeed are counted. -/
theorem corrections_after (c : Clock) (attempts : List Attempt) :
    (c.after attempts).corrections = c.corrections + (those does c attempts).length := by
  induction attempts generalizing c with
  | nil => rfl
  | cons a attempts ih =>
    show ((c.attempt a).2.after attempts).corrections = _
    rw [ih, corrections_attempt, those]
    cases c.does a with
    | false => rfl
    | true =>
      simp only [if_true, List.length_cons]
      omega

/-- After any sequence of attempts a clock has counted those that succeeded, and the last offset is
that of the last of them. The leap second is that of the last attempt that was not refused. So a
further attempt that fails leaves count and offset as they were, and the leap second exactly if it
is refused or comes with the one that is pending already. -/
theorem known_after (c : Clock) (attempts : List Attempt) :
    (c.after attempts).corrections = c.corrections + (those does c attempts).length ∧
    (c.after attempts).lastOffset =
      ((those does c attempts).getLast?.map fun a => some a.offset).getD c.lastOffset ∧
    (c.after attempts).pendingLeap =
      ((those admits c attempts).getLast?.map fun a => a.leap).getD c.pendingLeap ∧
    ∀ a failure, ((c.after attempts).attempt a).1 = some failure →
      ((c.after attempts).attempt a).2.corrections = (c.after attempts).corrections ∧
      ((c.after attempts).attempt a).2.lastOffset = (c.after attempts).lastOffset ∧
      (((c.after attempts).attempt a).2.pendingLeap = (c.after attempts).pendingLeap ↔
        (c.after attempts).admits a = false ∨ a.leap = (c.after attempts).pendingLeap) := by
  refine ⟨c.corrections_after attempts, after_eq_last lastOffset_attempt c attempts,
    after_eq_last pendingLeap_attempt c attempts, ?_⟩
  intro a failure hfailure
  generalize c.after attempts = d at hfailure ⊢
  have hdoes : d.does a = false := by rw [does, hfailure]; rfl
  refine ⟨?_, ?_, ?_⟩
  · rw [corrections_attempt, hdoes, if_neg Bool.false_ne_true]
  · rw [lastOffset_attempt, hdoes, if_neg Bool.false_ne_true]
  · rw [pendingLeap_attempt]
    cases d.admits a <;> simp

/-- An attempt of a tenth of a second with a leap second to insert, in a world in which the clock
cannot be set. -/
def lockedAttempt : Attempt :=
  { offset := .ofDecimal false 1 (-1), leap := 1, force := false, dryRun := false
    world := { clockFault := some (.system ⟨some 1, some "Operation not permitted"⟩) } }

/-- The attempt fails, so there is none that succeeds, and it leaves its leap second behind. -/
theorem leap_of_lockedAttempt :
    (attempt {} lockedAttempt).1.isSome = true ∧ those does {} [lockedAttempt] = [] ∧
      (after {} [lockedAttempt]).pendingLeap = 1 ∧ ({} : Clock).pendingLeap = 0 := by
  refine ⟨?_, ?_, ?_, ?_⟩ <;> decide +kernel

end Clock

end Concord
